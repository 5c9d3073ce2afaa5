import Mathlib.Data.List.Nodup
import Mathlib.Data.List.Perm.Subperm
import SchemaCatalog.Proofs.Values

/-! Where references lead. A schema without a reference is its own; any other leads to a schema of the
table, under the last name on the chain. A single hop fails in three ways: the reference is no pointer,
its name is on the chain already, or the table has no schema for it.
-/
namespace SchemaCatalog

/-- A failure by a cause at a place, whatever details are logged. -/
def FailsBy {α : Type} (outcome : Except Failure α) (cause : Cause) (place : Option String) : Prop :=
  ∃ details, outcome = .error (.problem ⟨cause, place, details⟩)

theorem FailsBy.bind {α β : Type} {outcome : Except Failure α} {cause : Cause} {place : Option String}
    (fails : FailsBy outcome cause place) (next : α → Except Failure β) :
    FailsBy (outcome >>= next) cause place := by
  obtain ⟨details, rfl⟩ := fails
  exact ⟨details, rfl⟩

theorem FailsBy.not_ok {α : Type} {outcome : Except Failure α} {cause : Cause} {place : Option String}
    {value : α} (fails : FailsBy outcome cause place) : outcome ≠ .ok value := by
  obtain ⟨details, rfl⟩ := fails
  nofun

theorem FailsBy.cause_eq {α : Type} {outcome : Except Failure α} {cause other : Cause}
    {place : Option String} (fails : FailsBy outcome cause place)
    (also : FailsBy outcome other place) : cause = other := by
  obtain ⟨details, rfl⟩ := fails
  obtain ⟨_, same⟩ := also
  cases same
  rfl

/-- A schema that refers to a definition, by a pointer that ends in its name. -/
def Json.RefersTo (schema : Json) (name : String) : Prop :=
  name ≠ "" ∧ schema.member? "$ref" = .ok (some (.str (Definitions.pointer ++ name)))

theorem Json.RefersTo.unique {schema : Json} {name other : String} (refers : schema.RefersTo name)
    (also : schema.RefersTo other) : name = other := by
  have same := refers.2.symm.trans also.2
  have pointers : Definitions.pointer ++ name = Definitions.pointer ++ other := by simpa using same
  simpa using pointers

namespace Definitions

variable {definitions : Definitions} {name : String} {place : Option String} {schema target : Json}
  {reference : Reference}

theorem ofJson_obj (members : List (String × Json)) : ofJson (.obj members) = .table members := by
  cases members <;> rfl

theorem toJson_ofJson {value : Json} (full : value.isEmpty = false) : (ofJson value).toJson = value := by
  unfold ofJson
  rw [full]
  cases value <;> rfl

theorem entry_of_schemaOf (found : definitions.schemaOf name place = .ok target) :
    definitions.toJson.entry name = .ok target ∧ target.isObject = true := by
  obtain ⟨held, -, found⟩ := Failure.bind_eq_ok.mp found
  split at found
  next =>
    obtain ⟨value, known, found⟩ := Failure.bind_eq_ok.mp found
    split at found
    next object =>
      cases found
      exact ⟨Failure.ofMisuse_eq_ok.mp known, object⟩
    next =>
      obtain ⟨_, _, found⟩ := Failure.bind_eq_ok.mp found
      cases found
  next =>
    obtain ⟨_, _, found⟩ := Failure.bind_eq_ok.mp found
    cases found

theorem schemaOf_ok (found : definitions.schemaOf name place = .ok target) :
    ∃ members, definitions = .table members ∧ members.lookup name = some target := by
  obtain ⟨known, -⟩ := entry_of_schemaOf found
  obtain ⟨members, object, inside⟩ := Json.member?_eq_ok.mp (Json.entry_eq_ok.mp known)
  cases definitions with
  | table others =>
    cases object
    exact ⟨_, rfl, inside⟩
  | other value kind =>
    change value = .obj members at object
    rw [object] at kind
    cases kind

theorem schemaOf_of_lookup {members : List (String × Json)}
    (bound : members.lookup name = some target) (object : target.isObject = true)
    (place : Option String) : (table members).schemaOf name place = .ok target := by
  have holds : (Json.obj members).holds name = .ok true := by
    rw [Json.holds_obj, bound, Option.isSome_some]
  have entry : (Json.obj members).entry name = .ok target := Json.entry_eq_ok.mpr (congrArg _ bound)
  refine Failure.bind_eq_ok.mpr ⟨true, Failure.ofMisuse_eq_ok.mpr holds, ?_⟩
  refine Failure.bind_eq_ok.mpr ⟨target, Failure.ofMisuse_eq_ok.mpr entry, ?_⟩
  rw [if_pos object]
  rfl

theorem mem_names_of_schemaOf (found : definitions.schemaOf name place = .ok target) :
    name ∈ definitions.names := by
  obtain ⟨members, rfl, inside⟩ := schemaOf_ok found
  exact List.mem_map_of_mem (Json.mem_of_lookup inside)

@[simp] theorem size_table (members : List (String × Json)) : (table members).size = members.length :=
  List.length_map _

/-- What a chain consists of: distinct names under which there are schemas. -/
structure Followed (definitions : Definitions) (chain : List String) : Prop where
  distinct : chain.Nodup
  known : ∀ name ∈ chain, ∃ place target, definitions.schemaOf name place = .ok target

theorem Followed.nil : definitions.Followed [] := ⟨List.nodup_nil, nofun⟩

theorem Followed.append {chain : List String} (followed : definitions.Followed chain)
    (fresh : name ∉ chain) (found : definitions.schemaOf name place = .ok target) :
    definitions.Followed (chain ++ [name]) where
  distinct := followed.distinct.append (List.nodup_singleton name) (by simpa using fresh)
  known other inside := by
    rcases List.mem_append.mp inside with inside | inside
    · exact followed.known other inside
    · exact List.mem_singleton.mp inside ▸ ⟨place, target, found⟩

theorem Followed.length_le {chain : List String} (followed : definitions.Followed chain) :
    chain.length ≤ definitions.size := by
  have listed : chain ⊆ definitions.names := by
    intro name inside
    obtain ⟨place, target, found⟩ := followed.known name inside
    exact mem_names_of_schemaOf found
  exact (followed.distinct.subperm listed).length_le

theorem nameOf_pointer (named : name ≠ "") (place : Option String) :
    nameOf (.str (pointer ++ name)) place = .ok name := by
  have begins : pointer.toList.isPrefixOf (pointer ++ name).toList = true := by
    rw [String.toList_append, List.isPrefixOf_iff_prefix]
    exact List.prefix_append _ _
  have rest : String.ofList ((pointer ++ name).toList.drop pointer.length) = name := by
    rw [String.toList_append, ← String.length_toList, List.drop_left, String.ofList_toList]
  simp only [nameOf, begins, rest, if_true]
  rw [if_neg (by simpa using named)]

theorem nameOf_malformed {reference : Json}
    (malformed : ∀ name, name ≠ "" → reference ≠ .str (pointer ++ name)) (place : Option String) :
    FailsBy (nameOf reference place) (.definitionMissing reference.display []) place := by
  have unsupported : FailsBy (nameOf.unsupported reference place)
      (.definitionMissing reference.display []) place := ⟨_, rfl⟩
  unfold nameOf
  split
  next text =>
    split
    next begins =>
      obtain ⟨rest, split⟩ := List.isPrefixOf_iff_prefix.mp begins
      have whole : text = pointer ++ String.ofList rest := by
        rw [← String.toList_inj, String.toList_append, String.toList_ofList, split]
      dsimp only
      split
      next => exact ⟨_, rfl⟩
      next named =>
        have cut : text.toList.drop pointer.length = rest := by
          rw [← split, ← String.length_toList, List.drop_left]
        rw [cut] at named
        exact absurd (congrArg Json.str whole) (malformed _ (by simpa using named))
    next => exact unsupported
  next => exact unsupported

theorem available_table (members : List (String × Json)) :
    (table members).available = .ok (sorted (members.map (·.1))) := by
  have texts : (members.map fun member => Json.str member.1).filterMap Json.text? =
      members.map (·.1) := by
    rw [List.filterMap_map]
    exact congrFun List.filterMap_eq_map members
  simp [available, toJson, Json.entries, texts]

theorem schemaOf_absent (absent : members.lookup name = none) (place : Option String) :
    FailsBy ((table members).schemaOf name place)
      (.definitionMissing name (sorted (members.map (·.1)))) place := by
  have holds : (Json.obj members).holds name = .ok false := by
    rw [Json.holds_obj, absent, Option.isSome_none]
  refine ⟨none, ?_⟩
  simp only [schemaOf, toJson, holds, available_table]
  rfl

theorem schemaOf_bare (bound : members.lookup name = some target) (bare : target.isObject = false)
    (place : Option String) :
    FailsBy ((table members).schemaOf name place)
      (.definitionMissing name (sorted (members.map (·.1)))) place := by
  have holds : (Json.obj members).holds name = .ok true := by
    rw [Json.holds_obj, bound, Option.isSome_some]
  have entry : (Json.obj members).entry name = .ok target := Json.entry_eq_ok.mpr (congrArg _ bound)
  simp only [schemaOf, toJson, holds, entry, available_table]
  change FailsBy (if target.isObject = true then _ else _) _ _
  rw [bare]
  exact ⟨_, rfl⟩

/-- A chain ends at a schema that is no reference. -/
theorem follow_of_plain (plain : schema.holds "$ref" = .ok false) (budget : Nat) (chain : List String) :
    definitions.follow place budget chain schema = .ok ⟨schema, chain⟩ := by
  unfold follow
  rw [plain]
  rfl

theorem resolve_of_plain (plain : schema.holds "$ref" = .ok false) (place : Option String) :
    definitions.resolve schema place = .ok ⟨schema, []⟩ :=
  follow_of_plain plain _ _

/-- A reference is read, looked for on the chain and then in the table. -/
theorem follow_of_reference {raw : Json} (written : schema.member? "$ref" = .ok (some raw))
    (budget : Nat) (chain : List String) :
    definitions.follow place budget chain schema = (do
      let name ← nameOf raw place
      if chain.contains name then .error (.located (.referenceCycle (chain ++ [name])) place)
      else
        let target ← definitions.schemaOf name place
        match budget with
        | 0 => .error .exhausted
        | budget + 1 => definitions.follow place budget (chain ++ [name]) target) := by
  have holds : schema.holds "$ref" = .ok true := Json.holds_of_member? written
  have entry : schema.entry "$ref" = .ok raw := Json.entry_eq_ok.mpr written
  rw [follow, holds, entry]
  rfl

theorem follow_cycle {chain : List String} (refers : schema.RefersTo name) (seen : name ∈ chain)
    (budget : Nat) :
    FailsBy (definitions.follow place budget chain schema) (.referenceCycle (chain ++ [name]))
      place := by
  refine ⟨none, ?_⟩
  rw [follow_of_reference refers.2, nameOf_pointer refers.1]
  change (if chain.contains name = true then _ else _) = _
  rw [if_pos (List.contains_iff_mem.mpr seen)]
  rfl

theorem follow_fresh {chain : List String} (refers : schema.RefersTo name) (fresh : name ∉ chain)
    (budget : Nat) :
    definitions.follow place budget chain schema = (do
      let target ← definitions.schemaOf name place
      match budget with
      | 0 => .error .exhausted
      | budget + 1 => definitions.follow place budget (chain ++ [name]) target) := by
  rw [follow_of_reference refers.2, nameOf_pointer refers.1]
  change (if chain.contains name = true then _ else _) = _
  rw [if_neg (by rwa [List.contains_iff_mem])]

/-- A reference to a schema of the table leads there, with its name added to the chain. -/
theorem follow_hop {members : List (String × Json)} {chain : List String}
    (refers : schema.RefersTo name) (fresh : name ∉ chain) (bound : members.lookup name = some target)
    (object : target.isObject = true) (budget : Nat) :
    (table members).follow place (budget + 1) chain schema =
      (table members).follow place budget (chain ++ [name]) target := by
  rw [follow_fresh refers fresh, schemaOf_of_lookup bound object]
  rfl

/-- A chain that is followed to its end has ended, or goes on with a schema of the table. -/
theorem follow_ok {budget : Nat} {chain : List String}
    (ok : definitions.follow place budget chain schema = .ok reference) :
    (reference = ⟨schema, chain⟩ ∧ schema.holds "$ref" = .ok false) ∨
      ∃ less name target, definitions.schemaOf name place = .ok target ∧
        definitions.follow place less (chain ++ [name]) target = .ok reference ∧ less < budget := by
  unfold follow at ok
  obtain ⟨refers, known, ok⟩ := Failure.bind_eq_ok.mp ok
  split at ok
  next =>
    obtain ⟨_, -, ok⟩ := Failure.bind_eq_ok.mp ok
    obtain ⟨name, -, ok⟩ := Failure.bind_eq_ok.mp ok
    split at ok
    next => cases ok
    next =>
      obtain ⟨target, found, ok⟩ := Failure.bind_eq_ok.mp ok
      cases budget with
      | zero => cases ok
      | succ budget => exact .inr ⟨budget, name, target, found, ok, Nat.lt_succ_self budget⟩
  next plain =>
    cases ok
    rw [Bool.not_eq_true] at plain
    exact .inl ⟨rfl, plain ▸ Failure.ofMisuse_eq_ok.mp known⟩

theorem holds_of_follow {budget : Nat} {chain : List String}
    (ok : definitions.follow place budget chain schema = .ok reference) :
    (reference = ⟨schema, chain⟩ ∧ schema.holds "$ref" = .ok false) ∨
      ∃ members name, definitions = .table members ∧ reference.name? = some name ∧
        members.lookup name = some reference.schema := by
  induction budget using Nat.strongRecOn generalizing chain schema with
  | ind budget ih =>
    rcases follow_ok ok with ended | ⟨less, name, target, found, ok, fewer⟩
    · exact .inl ended
    rcases ih less fewer ok with ⟨rfl, -⟩ | behind
    · obtain ⟨members, table, inside⟩ := schemaOf_ok found
      exact .inr ⟨members, name, table, List.getLast?_concat, inside⟩
    · exact .inr behind

/-- What holds of a schema and of all schemas of the table holds of the one that references lead to. -/
theorem follow_keeps (good : Json → Prop) {budget : Nat} {chain : List String} (here : good schema)
    (there : ∀ name target, definitions.schemaOf name place = .ok target → good target)
    (ok : definitions.follow place budget chain schema = .ok reference) : good reference.schema := by
  induction budget using Nat.strongRecOn generalizing chain schema with
  | ind budget ih =>
    rcases follow_ok ok with ⟨rfl, -⟩ | ⟨less, name, target, found, ok, fewer⟩
    · exact here
    · exact ih less fewer (there name target found) ok

/-- A schema is resolved to itself, without any name, or to a schema of the table under its name. -/
theorem resolve_ok (ok : definitions.resolve schema place = .ok reference) :
    (reference.schema = schema ∧ reference.name? = none ∧ schema.holds "$ref" = .ok false) ∨
      ∃ members name, definitions = .table members ∧ reference.name? = some name ∧
        members.lookup name = some reference.schema := by
  rcases holds_of_follow ok with ⟨rfl, plain⟩ | behind
  · exact .inl ⟨rfl, rfl, plain⟩
  · exact .inr behind

theorem isObject_of_resolve (object : schema.isObject = true)
    (ok : definitions.resolve schema place = .ok reference) : reference.schema.isObject = true :=
  follow_keeps (fun schema => schema.isObject = true) object
    (fun _ _ found => (entry_of_schemaOf found).2) ok

end Definitions

end SchemaCatalog
