import SchemaCatalog.Proofs.References

/-! Chains of references, hop by hop. A chain goes on as long as its last schema refers to a schema of
the table whose name is new; as names on it do not repeat, it has no more of them than the table. It ends
at a schema that is no reference, at one that refers back to a name on it, or at one whose reference
leads nowhere. Main statement: these are the outcomes of following references, each of them
exactly where the chain of distinct names ends in that way.
-/
namespace SchemaCatalog

/-- A schema that is no reference. -/
def Json.IsPlain (schema : Json) : Prop := schema.member? "$ref" = .ok none

namespace Definitions

/-- References lead from one schema to another through some names in turn. -/
inductive Leads (members : List (String × Json)) : Json → List String → Json → Prop
  | here (schema : Json) : Leads members schema [] schema
  | hop {schema next target : Json} {name : String} {names : List String}
      (refers : schema.RefersTo name) (bound : members.lookup name = some next)
      (object : next.isObject = true) (later : Leads members next names target) :
      Leads members schema (name :: names) target

/-- The reference of a schema leads nowhere, under the name to be told and the names that could have
been meant: it is no pointer with a name, or the table has no schema under that name. -/
inductive Astray (members : List (String × Json)) (schema : Json) : String → List String → Prop
  | malformed {raw : Json} (written : schema.member? "$ref" = .ok (some raw))
      (malformed : ∀ name, ¬ schema.RefersTo name) : Astray members schema raw.display []
  | absent {name : String} (refers : schema.RefersTo name) (absent : members.lookup name = none) :
      Astray members schema name (sorted (members.map (·.1)))
  | bare {name : String} {body : Json} (refers : schema.RefersTo name)
      (bound : members.lookup name = some body) (bare : body.isObject = false) :
      Astray members schema name (sorted (members.map (·.1)))

/-- A chain goes no further. -/
inductive Ended (members : List (String × Json)) (chain : List String) (schema : Json) : Prop
  | plain (plain : schema.IsPlain)
  | cycle {name : String} (refers : schema.RefersTo name) (seen : name ∈ chain)
  | astray {name : String} {available : List String} (astray : Astray members schema name available)

variable {members : List (String × Json)} {schema target : Json} {chain names available : List String}
  {name : String} {place : Option String}

theorem Leads.unique {target' : Json} {names' : List String}
    (leads : Leads members schema names target) (others : Leads members schema names' target')
    (same : names.length = names'.length) : names = names' ∧ target = target' := by
  induction leads generalizing names' with
  | here =>
    cases others with
    | here => exact ⟨rfl, rfl⟩
    | hop => cases same
  | hop refers bound object later ih =>
    cases others with
    | here => cases same
    | hop refers' bound' object' later' =>
      cases refers.unique refers'
      cases bound.symm.trans bound'
      obtain ⟨rfl, rfl⟩ := ih later' (Nat.succ.inj same)
      exact ⟨rfl, rfl⟩

theorem Followed.lookup (followed : (table members).Followed chain) (inside : name ∈ chain) :
    ∃ body, members.lookup name = some body ∧ body.isObject = true := by
  obtain ⟨place, body, found⟩ := followed.known name inside
  obtain ⟨entry, object⟩ := entry_of_schemaOf found
  exact ⟨body, Except.ok.inj (Json.entry_eq_ok.mp entry), object⟩

theorem Leads.followed (leads : Leads members schema names target) (distinct : names.Nodup) :
    (table members).Followed names where
  distinct := distinct
  known := by
    clear distinct
    induction leads with
    | here => nofun
    | hop refers bound object later ih =>
      intro name inside
      rcases List.mem_cons.mp inside with rfl | inside
      · exact ⟨none, _, schemaOf_of_lookup bound object none⟩
      · exact ih name inside

theorem Leads.length_le (leads : Leads members schema names target) (distinct : names.Nodup) :
    names.length ≤ members.length := by
  simpa using (leads.followed distinct).length_le

/-- A chain that can be led on is followed there. The budget is always the number of names that are
left for it. -/
theorem follow_leads (leads : Leads members schema names target)
    (followed : (table members).Followed chain) (distinct : (chain ++ names).Nodup) :
    (table members).follow place (members.length - chain.length) chain schema =
      (table members).follow place (members.length - (chain ++ names).length) (chain ++ names)
        target := by
  induction leads generalizing chain with
  | here => rw [List.append_nil]
  | @hop schema next target name names refers bound object later ih =>
    have fresh : name ∉ chain := fun inside =>
      (List.nodup_append.mp distinct).2.2 name inside name List.mem_cons_self rfl
    have longer := followed.append fresh (schemaOf_of_lookup bound object place)
    have regrouped : chain ++ name :: names = chain ++ [name] ++ names := by simp
    have left : members.length - chain.length =
        members.length - (chain ++ [name]).length + 1 := by
      have room := longer.length_le
      rw [size_table, List.length_append, List.length_singleton] at room
      rw [List.length_append, List.length_singleton]
      omega
    rw [regrouped] at distinct ⊢
    rw [← ih longer distinct, left, follow_hop refers fresh bound object]

theorem follow_astray (astray : Astray members schema name available)
    (followed : (table members).Followed chain) (budget : Nat) :
    FailsBy ((table members).follow place budget chain schema) (.definitionMissing name available)
      place := by
  cases astray with
  | malformed written malformed =>
    rw [follow_of_reference written]
    refine (nameOf_malformed (fun name named same => malformed name ⟨named, ?_⟩) place).bind _
    rw [written, same]
  | absent refers absent =>
    have fresh : name ∉ chain := fun inside => by
      obtain ⟨body, bound, -⟩ := followed.lookup inside
      rw [absent] at bound
      cases bound
    rw [follow_fresh refers fresh]
    exact (schemaOf_absent absent place).bind _
  | bare refers bound bare =>
    have fresh : name ∉ chain := fun inside => by
      obtain ⟨body, found, object⟩ := followed.lookup inside
      rw [bound] at found
      cases found
      rw [bare] at object
      cases object
    rw [follow_fresh refers fresh]
    exact (schemaOf_bare bound bare place).bind _

theorem exists_end {schema : Json} {chain : List String} (object : schema.isObject = true)
    (followed : (table members).Followed chain) : ∃ names target, (chain ++ names).Nodup ∧
      Leads members schema names target ∧ Ended members (chain ++ names) target := by
  have stop (ended : Ended members chain schema) : ∃ names target, (chain ++ names).Nodup ∧
      Leads members schema names target ∧ Ended members (chain ++ names) target := by
    refine ⟨[], schema, ?_, .here schema, ?_⟩
    · simpa using followed.distinct
    · simpa using ended
  cases schema with
  | obj own =>
    cases written : own.lookup "$ref" with
    | none => exact stop (.plain (congrArg Except.ok written))
    | some raw =>
      by_cases pointer : ∃ name, (Json.obj own).RefersTo name
      · obtain ⟨name, refers⟩ := pointer
        by_cases seen : name ∈ chain
        · exact stop (.cycle refers seen)
        cases bound : members.lookup name with
        | none => exact stop (.astray (.absent refers bound))
        | some next =>
          cases object : next.isObject with
          | false => exact stop (.astray (.bare refers bound object))
          | true =>
            -- the chain has one name of the table more, so fewer are left for it
            have longer := followed.append seen (schemaOf_of_lookup bound object none)
            have room : chain.length + 1 ≤ members.length := by simpa using longer.length_le
            obtain ⟨names, target, distinct, leads, ended⟩ := exists_end object longer
            rw [List.append_assoc] at distinct ended
            exact ⟨name :: names, target, distinct, .hop refers bound object leads, ended⟩
      · have malformed : ∀ name, ¬ (Json.obj own).RefersTo name := by simpa using pointer
        exact stop (.astray (.malformed (congrArg Except.ok written) malformed))
  | _ => cases object
termination_by members.length - chain.length
decreasing_by
  rw [List.length_append, List.length_singleton]
  omega

section Outcomes

variable {node : List (String × Json)}

theorem resolve_leads (leads : Leads members (.obj node) names target) (distinct : names.Nodup) :
    (table members).resolve (.obj node) place =
      (table members).follow place (members.length - names.length) names target := by
  rw [resolve, size_table]
  exact follow_leads leads .nil distinct

theorem resolve_of_plain_end (leads : Leads members (.obj node) names target)
    (distinct : names.Nodup) (plain : target.IsPlain) :
    (table members).resolve (.obj node) place = .ok ⟨target, names⟩ := by
  rw [resolve_leads leads distinct, follow_of_plain (Json.holds_of_member? plain)]

theorem resolve_of_cycle (leads : Leads members (.obj node) names target) (distinct : names.Nodup)
    (refers : target.RefersTo name) (seen : name ∈ names) :
    FailsBy ((table members).resolve (.obj node) place) (.referenceCycle (names ++ [name])) place := by
  rw [resolve_leads leads distinct]
  exact follow_cycle refers seen _

theorem resolve_of_astray (leads : Leads members (.obj node) names target) (distinct : names.Nodup)
    (astray : Astray members target name available) :
    FailsBy ((table members).resolve (.obj node) place) (.definitionMissing name available) place := by
  rw [resolve_leads leads distinct]
  exact follow_astray astray (leads.followed distinct) _

theorem exists_end_of_node (members node : List (String × Json)) : ∃ names target, names.Nodup ∧
    Leads members (.obj node) names target ∧ Ended members names target := by
  have object : (Json.obj node).isObject = true := rfl
  have start : (table members).Followed [] := .nil
  simpa using exists_end object start

theorem resolve_eq_ok {reference : Reference} :
    (table members).resolve (.obj node) place = .ok reference ↔
      ∃ names target, names.Nodup ∧ Leads members (.obj node) names target ∧ target.IsPlain ∧
        reference = ⟨target, names⟩ := by
  constructor
  · intro ok
    obtain ⟨names, target, distinct, leads, ended⟩ := exists_end_of_node members node
    cases ended with
    | plain plain =>
      cases ok.symm.trans (resolve_of_plain_end leads distinct plain)
      exact ⟨names, target, distinct, leads, plain, rfl⟩
    | cycle refers seen => exact absurd ok (resolve_of_cycle leads distinct refers seen).not_ok
    | astray astray => exact absurd ok (resolve_of_astray leads distinct astray).not_ok
  · rintro ⟨names, target, distinct, leads, plain, rfl⟩
    exact resolve_of_plain_end leads distinct plain

theorem resolve_cyclic :
    FailsBy ((table members).resolve (.obj node) place) (.referenceCycle chain) place ↔
      ∃ names target name, names.Nodup ∧ Leads members (.obj node) names target ∧
        target.RefersTo name ∧ name ∈ names ∧ chain = names ++ [name] := by
  constructor
  · intro fails
    obtain ⟨names, target, distinct, leads, ended⟩ := exists_end_of_node members node
    cases ended with
    | plain plain => exact absurd (resolve_of_plain_end leads distinct plain) fails.not_ok
    | @cycle name refers seen =>
      cases fails.cause_eq (resolve_of_cycle leads distinct refers seen)
      exact ⟨names, target, name, distinct, leads, refers, seen, rfl⟩
    | astray astray => cases fails.cause_eq (resolve_of_astray leads distinct astray)
  · rintro ⟨names, target, name, distinct, leads, refers, seen, rfl⟩
    exact resolve_of_cycle leads distinct refers seen

theorem resolve_missing :
    FailsBy ((table members).resolve (.obj node) place) (.definitionMissing name available) place ↔
      ∃ names target, names.Nodup ∧ Leads members (.obj node) names target ∧
        Astray members target name available := by
  constructor
  · intro fails
    obtain ⟨names, target, distinct, leads, ended⟩ := exists_end_of_node members node
    cases ended with
    | plain plain => exact absurd (resolve_of_plain_end leads distinct plain) fails.not_ok
    | cycle refers seen => cases fails.cause_eq (resolve_of_cycle leads distinct refers seen)
    | astray astray =>
      cases fails.cause_eq (resolve_of_astray leads distinct astray)
      exact ⟨names, target, distinct, leads, astray⟩
  · rintro ⟨names, target, distinct, leads, astray⟩
    exact resolve_of_astray leads distinct astray

/-- Following references comes to an end in one of three ways. -/
theorem resolve_ends (members node : List (String × Json)) (place : Option String) :
    (∃ reference, (table members).resolve (.obj node) place = .ok reference) ∨
    (∃ chain, FailsBy ((table members).resolve (.obj node) place) (.referenceCycle chain) place) ∨
    ∃ name available, FailsBy ((table members).resolve (.obj node) place)
      (.definitionMissing name available) place := by
  obtain ⟨names, target, distinct, leads, ended⟩ := exists_end_of_node members node
  cases ended with
  | plain plain => exact .inl ⟨_, resolve_of_plain_end leads distinct plain⟩
  | cycle refers seen => exact .inr (.inl ⟨_, resolve_of_cycle leads distinct refers seen⟩)
  | astray astray => exact .inr (.inr ⟨_, _, resolve_of_astray leads distinct astray⟩)

end Outcomes

/-- The names that references lead through are determined by the schema and their number. Following
them goes through distinct names, at most one for each schema of the table. It succeeds exactly at a
schema that is no reference, with the last name if there is one; finds a cycle exactly at a schema that
refers to one of the names before it; and misses a definition exactly at a reference that leads nowhere.
It always does one of these. -/
theorem references_exact (members node : List (String × Json)) (place : Option String) :
    let outcome := (table members).resolve (.obj node) place
    let leads := Leads members (.obj node)
    (∀ names target names' target', leads names target → leads names' target' →
      names.length = names'.length → names = names' ∧ target = target') ∧
    (∀ names target, leads names target → names.Nodup → names.length ≤ members.length) ∧
    (∀ reference, outcome = .ok reference ↔ ∃ names target, names.Nodup ∧ leads names target ∧
      target.IsPlain ∧ reference = ⟨target, names⟩ ∧ reference.name? = names.getLast?) ∧
    (∀ chain, FailsBy outcome (.referenceCycle chain) place ↔ ∃ names target name,
      names.Nodup ∧ leads names target ∧ target.RefersTo name ∧ name ∈ names ∧
      chain = names ++ [name]) ∧
    (∀ name available, FailsBy outcome (.definitionMissing name available) place ↔
      ∃ names target, names.Nodup ∧ leads names target ∧ Astray members target name available) ∧
    ((∃ reference, outcome = .ok reference) ∨ (∃ chain, FailsBy outcome (.referenceCycle chain) place) ∨
      ∃ name available, FailsBy outcome (.definitionMissing name available) place) := by
  refine ⟨fun _ _ _ _ => Leads.unique, fun _ _ => Leads.length_le, fun reference => ?_,
    fun _ => resolve_cyclic, fun _ _ => resolve_missing, resolve_ends members node place⟩
  constructor
  · intro ok
    obtain ⟨names, target, distinct, leads, plain, rfl⟩ := resolve_eq_ok.mp ok
    exact ⟨names, target, distinct, leads, plain, rfl, rfl⟩
  · rintro ⟨names, target, distinct, leads, plain, same, -⟩
    exact resolve_eq_ok.mpr ⟨names, target, distinct, leads, plain, same⟩

end Definitions

end SchemaCatalog
