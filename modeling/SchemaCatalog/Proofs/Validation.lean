import SchemaCatalog.Proofs.Chains
import SchemaCatalog.Proofs.Navigation
import SchemaCatalog.Proofs.Transparency

/-! Checking a table of definitions before anything is built. The check starts from the schema of each
definition, a resolution from a reference to it, which is one hop earlier; so they come to a cycle at
different names. Main statement: they agree on every definition nevertheless; and once the check
finds nothing, references to definitions of the table never go wrong in a document.
-/
namespace SchemaCatalog

theorem forall₂_filterMap {α β : Type} (tell : α → Option β) (items : List α) :
    List.Forall₂ (fun item told => item ∈ items ∧ tell item = some told)
      (items.filter fun item => (tell item).isSome) (items.filterMap tell) := by
  induction items with
  | nil => exact .nil
  | cons item items ih =>
    have later := ih.imp fun _ _ ⟨inside, known⟩ => And.intro (List.mem_cons_of_mem item inside) known
    cases told : tell item with
    | none =>
      rw [List.filterMap_cons_none told, List.filter_cons_of_neg (by simp [told])]
      exact later
    | some told' =>
      rw [List.filterMap_cons_some told, List.filter_cons_of_pos (by simp [told])]
      exact .cons ⟨List.mem_cons_self, told⟩ later

namespace Run

variable {α β γ : Type} {items : List α} {step : α → Run β} {progress : Progress}

theorem run_mapM (result : α → β) (each : ∀ item ∈ items, ∀ progress, ∃ after,
    (step item).run progress = (.ok (result item), after)) :
    ∃ after, (items.mapM step).run progress = (.ok (items.map result), after) := by
  induction items generalizing progress with
  | nil => exact ⟨progress, rfl⟩
  | cons item items ih =>
    obtain ⟨middle, here⟩ := each item List.mem_cons_self progress
    obtain ⟨after, later⟩ := ih (fun item inside => each item (List.mem_cons_of_mem _ inside))
    refine ⟨after, ?_⟩
    rw [List.mapM_cons]
    refine (run_bind_of_ok here _).trans ?_
    exact (run_bind_of_ok later _).trans rfl

/-- Steps that succeed whatever the progress come to the same as their results do. -/
theorem run_mapM_map (result : α → β) (each : ∀ item ∈ items, ∀ progress, ∃ after,
    (step item).run progress = (.ok (result item), after)) (finish : List β → γ) :
    ((items.mapM step >>= fun results => pure (finish results) : Run γ).run progress).1 =
      .ok (finish (items.map result)) := by
  obtain ⟨after, ran⟩ := run_mapM result each
  rw [run_bind_of_ok ran]
  rfl

end Run

/-- Every reference in a document is to a definition of one of some names. -/
def Json.RefersOnlyTo (document : Json) (names : List String) : Prop :=
  ∀ schema ∈ document.values, ∀ raw, schema.member? "$ref" = .ok (some raw) →
    ∃ name ∈ names, raw = .str (Definitions.pointer ++ name)

namespace Definitions

/-- What is told of a definition: that its schema is none, or the problem with following that. -/
inductive Tells (definitions : Definitions) (name : String) (body : Json) : String → Prop
  | bare (bare : body.isObject = false) :
      Tells definitions name body (Problem.message ⟨.definitionNotObject name, none, none⟩)
  | astray {problem : Problem} (object : body.isObject = true)
      (failed : definitions.resolve body (some (pointer ++ name)) = .error (.problem problem)) :
      Tells definitions name body problem.message

/-- The message that comes of following a definition. -/
def told? : Except Failure Reference → Option String
  | .error (.problem problem) => some problem.message
  | _ => none

variable {members : List (String × Json)} {schema target body : Json} {names : List String}
  {name : String} {place : Option String} {reference : Reference}

/-- Only one chain leads from a schema to one that is no reference. -/
theorem Leads.unique_plain {target' : Json} {names' : List String}
    (leads : Leads members schema names target) (others : Leads members schema names' target')
    (plain : target.IsPlain) (plain' : target'.IsPlain) : names = names' ∧ target = target' := by
  have not_plain {schema : Json} {name : String} (refers : schema.RefersTo name) : ¬ schema.IsPlain :=
    fun plain => nomatch plain.symm.trans refers.2
  induction leads generalizing names' with
  | here =>
    cases others with
    | here => exact ⟨rfl, rfl⟩
    | hop refers => exact absurd plain (not_plain refers)
  | hop refers bound object later ih =>
    cases others with
    | here => exact absurd plain' (not_plain refers)
    | hop refers' bound' object' later' =>
      cases refers.unique refers'
      cases bound.symm.trans bound'
      obtain ⟨rfl, rfl⟩ := ih later' plain
      exact ⟨rfl, rfl⟩

/-- A chain goes on from the schema of each name on it. -/
theorem Leads.later (leads : Leads members schema names target) (inside : name ∈ names) :
    ∃ before rest body, names = before ++ name :: rest ∧ members.lookup name = some body ∧
      Leads members body rest target := by
  induction leads with
  | here => cases inside
  | @hop _ next _ other names _ bound _ later ih =>
    rcases List.mem_cons.mp inside with rfl | inside
    · exact ⟨[], names, next, rfl, bound, later⟩
    · obtain ⟨before, rest, body, rfl, known, on⟩ := ih inside
      exact ⟨other :: before, rest, body, rfl, known, on⟩

/-- A definition whose chain comes to an end is not on that chain: it would go on there for as long as it
has from the start. -/
theorem Leads.not_mem (leads : Leads members body names target) (plain : target.IsPlain)
    (bound : members.lookup name = some body) : name ∉ names := by
  intro inside
  obtain ⟨before, rest, other, split, bound', later⟩ := leads.later inside
  cases bound.symm.trans bound'
  obtain ⟨same, -⟩ := leads.unique_plain later plain plain
  have lengths := congrArg List.length (split.symm.trans same)
  rw [List.length_append, List.length_cons] at lengths
  omega

/-- A reference to a definition is followed exactly as far as the schema of that definition is, with one
name more. -/
theorem resolve_hop (refers : schema.RefersTo name) (place place' : Option String) :
    (table members).resolve schema place = .ok reference ↔
      ∃ body own, members.lookup name = some body ∧ body.isObject = true ∧
        (table members).resolve body place' = .ok own ∧
        reference = ⟨own.schema, name :: own.chain⟩ := by
  obtain ⟨node, rfl, written⟩ := Json.member?_eq_ok.mp refers.2
  constructor
  · intro ok
    obtain ⟨names, target, distinct, leads, plain, rfl⟩ := resolve_eq_ok.mp ok
    cases leads with
    | here => cases plain.symm.trans refers.2
    | hop refers' bound object later =>
      cases refers.unique refers'
      obtain ⟨inner, rfl⟩ := Json.eq_obj object
      refine ⟨_, ⟨target, _⟩, bound, object, resolve_eq_ok.mpr ?_, rfl⟩
      exact ⟨_, target, (List.nodup_cons.mp distinct).2, later, plain, rfl⟩
  · rintro ⟨body, own, bound, object, ok, rfl⟩
    obtain ⟨inner, rfl⟩ := Json.eq_obj object
    obtain ⟨names, target, distinct, leads, plain, rfl⟩ := resolve_eq_ok.mp ok
    have fresh := leads.not_mem plain bound
    have longer := Leads.hop refers bound object leads
    exact resolve_eq_ok.mpr ⟨_, _, List.nodup_cons.mpr ⟨fresh, distinct⟩, longer, plain, rfl⟩

/-- The last name on the way to a definition's end is the same with the hop to it and without, if there
are names without. -/
theorem name?_of_hop (object : body.isObject = true) (referring : ¬ body.IsPlain)
    (ok : (table members).resolve body place = .ok reference) :
    Reference.name? ⟨reference.schema, name :: reference.chain⟩ = reference.name? := by
  obtain ⟨node, rfl⟩ := Json.eq_obj object
  obtain ⟨names, target, -, leads, plain, rfl⟩ := resolve_eq_ok.mp ok
  cases leads with
  | here => exact absurd plain referring
  | hop => exact List.getLast?_cons_cons

/-- Following a definition succeeds or comes to a problem that can be told. -/
theorem outcome_cases (members : List (String × Json)) (name : String) (body : Json) :
    (∃ reference, (table members).outcome name body = .ok reference) ∨
      ∃ problem, (table members).outcome name body = .error (.problem problem) := by
  unfold outcome
  split
  next object =>
    obtain ⟨node, rfl⟩ := Json.eq_obj object
    rcases resolve_ends members node (some (pointer ++ name)) with
      ok | ⟨_, _, failed⟩ | ⟨_, _, _, failed⟩
    · exact .inl ok
    · exact .inr ⟨_, failed⟩
    · exact .inr ⟨_, failed⟩
  next => exact .inr ⟨_, rfl⟩

theorem tells_of_told {message : String}
    (told : told? ((table members).outcome name body) = some message) :
    (table members).Tells name body message := by
  unfold outcome at told
  split at told
  next object =>
    cases failed : (table members).resolve body (some (pointer ++ name)) with
    | ok reference =>
      rw [failed] at told
      cases told
    | error failure =>
      rw [failed] at told
      cases failure with
      | problem problem =>
        cases told
        exact .astray object failed
      | _ => cases told
  next bare =>
    cases told
    exact .bare (Bool.not_eq_true _ ▸ bare)

/-- A definition is told of exactly where references to it fail. -/
theorem isSome_told (bound : members.lookup name = some body) (named : name ≠ "")
    (place : Option String) : (told? ((table members).outcome name body)).isSome =
      !((table members).resolve (referenceTo name) place).isOk := by
  have refers : (referenceTo name).RefersTo name := ⟨named, rfl⟩
  rcases outcome_cases members name body with ⟨own, ok⟩ | ⟨problem, failed⟩
  · unfold outcome at ok
    split at ok
    next object =>
      have whole := (resolve_hop refers place _).mpr ⟨body, own, bound, object, ok, rfl⟩
      rw [outcome, if_pos object, ok, whole]
      rfl
    next => cases ok
  · cases ended : (table members).resolve (referenceTo name) place with
    | error failure =>
      rw [failed]
      rfl
    | ok reference =>
      obtain ⟨other, own, bound', object, ok, -⟩ :=
        (resolve_hop refers place (some (pointer ++ name))).mp ended
      cases bound.symm.trans bound'
      rw [outcome, if_pos object, ok] at failed
      cases failed

theorem run_validate (members : List (String × Json)) (progress : Progress) :
    ((Run.validate (table members)).run progress).1 =
      .ok (members.filterMap fun member => told? ((table members).outcome member.1 member.2)) := by
  have tabled : (table members).outcomes = .ok (members.map fun member =>
      (table members).outcome member.1 member.2) := rfl
  unfold Run.validate
  rw [Run.run_bind_of_ok (Run.run_attempt_of_ok tabled)]
  refine (Run.run_mapM_map told? (fun outcome inside progress => ?_) (List.filterMap id)).trans ?_
  · obtain ⟨member, -, rfl⟩ := List.mem_map.mp inside
    rcases outcome_cases members member.1 member.2 with ⟨reference, ok⟩ | ⟨problem, failed⟩
    · rw [ok]
      exact ⟨_, rfl⟩
    · rw [failed]
      exact ⟨_, rfl⟩
  · rw [List.map_map, List.filterMap_map]
    rfl

end Definitions

namespace Resolver

open Definitions (referenceTo table)

/-- Faults in how a schema tells its tag are none of its reference. -/
theorem not_reference_of_tag {cause : Cause} (fault : cause.isOfTag = true) :
    cause.category ≠ .missingDefinition ∧ cause.category ≠ .cyclicReference := by
  cases cause with
  | typeAbsent | typeMalformed | typeUnknown | enumNotList | enumLiteralNested => exact ⟨nofun, nofun⟩
  | _ => cases fault

theorem isOfInference_of_reference {category : Category}
    (either : ¬ (category ≠ .missingDefinition ∧ category ≠ .cyclicReference)) :
    category.isOfInference = true := by
  cases category with
  | missingDefinition | cyclicReference => rfl
  | _ => exact absurd ⟨nofun, nofun⟩ either

section Sound

variable {document : Json} {members : List (String × Json)}
  (named : ∀ name ∈ members.map (·.1), name ≠ "")
  (sound : ∀ name ∈ members.map (·.1), ((table members).resolve (referenceTo name) none).isOk = true)
  (within : document.RefersOnlyTo (members.map (·.1)))

include named sound within

/-- Every schema of the document is followed to an end, if all definitions are. -/
theorem exists_resolved {schema : Json} (inside : schema ∈ document.values)
    (object : schema.isObject = true) (place : Option String) :
    ∃ reference, (table members).resolve schema place = .ok reference := by
  obtain ⟨node, rfl⟩ := Json.eq_obj object
  cases written : node.lookup "$ref" with
  | none =>
    have plain : (Json.obj node).member? "$ref" = .ok none := congrArg Except.ok written
    exact ⟨_, Definitions.resolve_of_plain (Json.holds_of_member? plain) place⟩
  | some raw =>
    obtain ⟨name, listed, rfl⟩ := within _ inside raw (congrArg Except.ok written)
    have refers : (Json.obj node).RefersTo name := ⟨named name listed, congrArg Except.ok written⟩
    have followed := sound name listed
    cases ended : (table members).resolve (referenceTo name) none with
    | error failure =>
      rw [ended] at followed
      cases followed
    | ok reference =>
      have hop : (referenceTo name).RefersTo name := ⟨named name listed, rfl⟩
      have below := (Definitions.resolve_hop hop none none).mp ended
      exact ⟨reference, (Definitions.resolve_hop refers place none).mpr below⟩

/-- Where each reference in a document is to a definition that can be followed, no resolution fails over a
reference. -/
theorem references_sound {settings : Settings} {budget : Nat} {start : Progress} {problem : Problem}
    (known : definitions ⟨document, settings⟩ = .table members)
    (failed : (do
      let resolver ← ofDocument document settings
      ((resolver.resolveWithin budget).run start).1) = .error (.problem problem)) :
    problem.category ≠ .missingDefinition ∧ problem.category ≠ .cyclicReference := by
  obtain ⟨path, value, -, ⟨directions, rfl, reaches⟩, inferred⟩ :=
    pointed_of_resolveWithin failed problem rfl
  rw [known] at reaches inferred
  have inside : value ∈ document.values := mem_values_of_reaches (known ▸ reaches)
  by_contra either
  obtain ⟨object, failed⟩ := inferred (isOfInference_of_reference either)
  obtain ⟨reference, ok⟩ := exists_resolved named sound within inside object
    (some (Direction.render directions))
  rw [Definitions.infer, ok] at failed
  have behind := Definitions.isObject_of_resolve object ok
  cases onlyFails_ofSchema behind false _ failed with
  | problem fault => exact either (not_reference_of_tag fault)

end Sound

/-- Over a table of distinct names, none of them empty, the check tells in order of exactly the definitions
to which references fail. A reference that does not fail leads where its definition leads from its own
schema, by the same last name if that is a reference too. And once there is nothing to tell, no
resolution fails over a reference, in any document with this table which refers to nothing else. -/
theorem validation_agrees (members : List (String × Json)) (distinct : (members.map (·.1)).Nodup)
    (named : ∀ name ∈ members.map (·.1), name ≠ "") (progress : Progress) :
    let table := table members
    let checked := ((Run.validate table).run progress).1
    (∀ place, ∃ messages, checked = .ok messages ∧
      List.Forall₂ (fun member message => table.Tells member.1 member.2 message)
        (members.filter fun member => !(table.resolve (referenceTo member.1) place).isOk) messages) ∧
    (∀ name body reference place place', (name, body) ∈ members →
      table.resolve (referenceTo name) place = .ok reference →
      ∃ own, table.resolve body place' = .ok own ∧ own.schema = reference.schema ∧
        (¬ body.IsPlain → own.name? = reference.name?)) ∧
    (∀ document settings budget start problem, definitions ⟨document, settings⟩ = table →
      document.RefersOnlyTo (members.map (·.1)) → checked = .ok [] →
      (do
        let resolver ← ofDocument document settings
        ((resolver.resolveWithin budget).run start).1) = .error (.problem problem) →
      problem.category ≠ .missingDefinition ∧ problem.category ≠ .cyclicReference) := by
  intro table checked
  have told_iff (place : Option String) : ∀ member ∈ members,
      (Definitions.told? (table.outcome member.1 member.2)).isSome =
        !(table.resolve (referenceTo member.1) place).isOk := fun member inside =>
    Definitions.isSome_told (Json.lookup_of_mem distinct inside)
      (named _ (List.mem_map_of_mem inside)) place
  refine ⟨fun place => ?_, fun name body reference place place' inside ok => ?_, ?_⟩
  · refine ⟨_, Definitions.run_validate members progress, ?_⟩
    rw [← List.filter_congr (told_iff place)]
    exact (forall₂_filterMap _ members).imp fun _ _ ⟨_, told⟩ => Definitions.tells_of_told told
  · have refers : (referenceTo name).RefersTo name := ⟨named _ (List.mem_map_of_mem inside), rfl⟩
    obtain ⟨other, own, bound, object, resolved, rfl⟩ :=
      (Definitions.resolve_hop refers place place').mp ok
    cases (Json.lookup_of_mem distinct inside).symm.trans bound
    refine ⟨own, resolved, rfl, fun referring => ?_⟩
    exact (Definitions.name?_of_hop object referring resolved).symm
  · intro document settings budget start problem known within silent failed
    have nothing := Except.ok.inj ((Definitions.run_validate members progress).symm.trans silent)
    refine references_sound named (fun name listed => ?_) within known failed
    obtain ⟨member, inside, rfl⟩ := List.mem_map.mp listed
    have untold := List.filterMap_eq_nil_iff.mp nothing member inside
    have sound := told_iff none member inside
    rw [untold] at sound
    simpa using sound

/-- A definition with one behind it, one that leads nowhere, a cycle, and a number. -/
def tangledDefinitions : List (String × Json) := [
  ("near", referenceTo "far"), ("far", .obj [("type", .str "string")]),
  ("dangling", referenceTo "nowhere"), ("loop", referenceTo "loop"), ("scalar", .int 3)]

theorem refersOnlyTo_linkedDocument : linkedDocument.RefersOnlyTo ["link"] := by
  have all : linkedDocument.values.all (fun schema => (schema.member? "$ref").toOption.join.all
      fun raw => raw.text? == some "#/definitions/link") = true := by decide +kernel
  intro schema inside raw looked
  have known := List.all_eq_true.mp all schema inside
  rw [looked] at known
  cases raw with
  | str text =>
    have same : text = "#/definitions/link" := Option.some.inj (eq_of_beq known)
    exact ⟨"link", List.mem_singleton_self _, congrArg Json.str same⟩
  | _ => cases known

theorem validation_agrees_tables :
    (∃ messages, ((Run.validate (table tangledDefinitions)).run {}).1 = .ok messages ∧
      messages = [
        "Definition 'nowhere' not found. Available: dangling, far, loop, near, scalar " ++
          "(at #/definitions/dangling)",
        "Cyclic $ref chain: loop -> loop (at #/definitions/loop)",
        "Definition 'scalar' is not a schema object"] ∧
      List.Forall₂ (fun member message => (table tangledDefinitions).Tells member.1 member.2 message)
        (tangledDefinitions.filter fun member =>
          !((table tangledDefinitions).resolve (referenceTo member.1) none).isOk) messages) ∧
    (∀ reference, (table tangledDefinitions).resolve (referenceTo "near") none = .ok reference →
      ∃ own, (table tangledDefinitions).resolve (referenceTo "far") none = .ok own ∧
        own.schema = reference.schema ∧
        (¬ (referenceTo "far").IsPlain → own.name? = reference.name?)) ∧
    ∀ settings budget start problem,
      (do
        let resolver ← ofDocument linkedDocument settings
        ((resolver.resolveWithin budget).run start).1) = .error (.problem problem) →
      problem.category ≠ .missingDefinition ∧ problem.category ≠ .cyclicReference := by
  obtain ⟨told, followed, -⟩ := validation_agrees tangledDefinitions (by decide) (by decide) {}
  obtain ⟨-, -, sound⟩ := validation_agrees [("link", linkSchema)] (by decide) (by decide) {}
  refine ⟨?_, fun reference ok => ?_, fun settings budget start problem failed => ?_⟩
  · obtain ⟨messages, checked, tells⟩ := told none
    refine ⟨messages, checked, ?_, tells⟩
    have ran : ((Run.validate (table tangledDefinitions)).run {}).1 = .ok [
        "Definition 'nowhere' not found. Available: dangling, far, loop, near, scalar " ++
          "(at #/definitions/dangling)",
        "Cyclic $ref chain: loop -> loop (at #/definitions/loop)",
        "Definition 'scalar' is not a schema object"] := by decide +kernel
    exact Except.ok.inj (checked.symm.trans ran)
  · exact followed "near" (referenceTo "far") reference none none List.mem_cons_self ok
  · exact sound linkedDocument settings budget start problem rfl refersOnlyTo_linkedDocument
      (by decide +kernel) failed

end Resolver

end SchemaCatalog
