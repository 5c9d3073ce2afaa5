import Mathlib.Tactic.Linarith
import Mathlib.Tactic.Ring
import SchemaCatalog.Proofs.Depth

/-! Resolutions end. Every schema that is reached is a value of the document, so where no schema comes
back to itself by steps by path, registrations nest no deeper than the budget. Main statement: on such
a document the budget is not exhausted, and no greater one gives anything else.
-/
namespace SchemaCatalog

namespace Resolver

variable {resolver : Resolver} {parent child site : Site} {key : String} {position : Option Int}
  {raw entry : Json} {place : Option String} {path : String} {reference : Reference}
  {finding : Finding}

/-- The definitions are an empty table, or whatever stands for them in the document and is not empty. -/
theorem definitions_cases (resolver : Resolver) : resolver.definitions = .table [] ∨
    ∃ value, resolver.document.member? "definitions" = .ok (some value) ∧ value.isEmpty = false ∧
      resolver.definitions.toJson = value := by
  obtain ⟨document, settings⟩ := resolver
  cases document with
  | obj members =>
    change Definitions.ofJson _ = _ ∨ ∃ value, Except.ok (members.lookup "definitions") = _ ∧ _ ∧
      (Definitions.ofJson _).toJson = value
    cases members.lookup "definitions" with
    | none => exact .inl rfl
    | some value =>
      by_cases empty : value.isEmpty = true
      · exact .inl (if_pos empty)
      · rw [Bool.not_eq_true] at empty
        exact .inr ⟨value, rfl, empty, Definitions.toJson_ofJson empty⟩
  | _ => exact .inl rfl

theorem definitions_table {members : List (String × Json)}
    (table : resolver.definitions = .table members) :
    members = [] ∨ ∃ others, resolver.document = .obj others ∧
      others.lookup "definitions" = some (.obj members) := by
  rcases resolver.definitions_cases with none | ⟨value, looked, -, same⟩
  · cases table.symm.trans none
    exact .inl rfl
  · rw [table] at same
    subst same
    exact .inr (Json.member?_eq_ok.mp looked)

theorem mem_values_of_definition {members : List (String × Json)} {name : String} {schema : Json}
    (table : resolver.definitions = .table members) (inside : members.lookup name = some schema) :
    schema ∈ resolver.document.values := by
  rcases definitions_table table with rfl | ⟨others, document, known⟩
  · cases inside
  · rw [document]
    have whole := Json.mem_values_self (.obj others)
    have listed := Json.mem_values_of_member whole (Json.mem_of_lookup known)
    exact Json.mem_values_of_member listed (Json.mem_of_lookup inside)

theorem mem_values_of_resolve (ok : resolver.definitions.resolve raw place = .ok reference) :
    reference.schema = raw ∨ reference.schema ∈ resolver.document.values := by
  rcases Definitions.resolve_ok ok with ⟨same, -⟩ | ⟨members, name, table, -, inside⟩
  · exact .inl same
  · exact .inr (mem_values_of_definition table inside)

theorem mem_values_of_inspect (found : (resolver.inspect raw path).outcome = .ok finding)
    (known : raw ∈ resolver.document.values) :
    finding.reference.schema ∈ resolver.document.values := by
  rcases mem_values_of_resolve (inspect_ok.mp found).1 with same | inside
  · rw [same]
    exact known
  · exact inside

theorem mem_values_of_declares {schema : Json} (declared : schema.Declares key entry)
    (known : schema ∈ resolver.document.values) : entry ∈ resolver.document.values := by
  obtain ⟨members, object, inside⟩ := declared
  have listed := Json.mem_values_of_lookup known (propertiesOf_ok.mp object)
  exact Json.mem_values_of_member listed inside

/-- A type name among several schemas is no schema with a model. -/
theorem not_found_text {parent text : String} :
    ¬ resolver.Found (spelledOut (.str text)) parent key position site := by
  rintro ⟨finding, found, modelled, -⟩
  obtain ⟨resolved, known⟩ := inspect_ok.mp found
  obtain ⟨-, -, declared⟩ := findingOf_ok.mp known
  obtain ⟨-, entries, -, known⟩ := hasModel_ok.mp (modelled ▸ declared)
  rw [Definitions.resolve_of_plain (by rfl)] at resolved
  rw [← Except.ok.inj resolved] at known
  cases known

theorem mem_values_of_found {parent : String}
    (found : resolver.Found raw parent key position site)
    (known : raw ∈ resolver.document.values ∨ ∃ text, raw = spelledOut (.str text)) :
    site.schema ∈ resolver.document.values := by
  rcases known with known | ⟨text, rfl⟩
  · obtain ⟨finding, found, -, schema, -⟩ := found
    rw [schema]
    exact mem_values_of_inspect found known
  · exact absurd found not_found_text

theorem mem_values_of_offer {items : Json} (offered : items.Offers position raw)
    (known : items ∈ resolver.document.values) :
    raw ∈ resolver.document.values ∨ ∃ text, raw = spelledOut (.str text) := by
  have spelled {entry : Json} (inside : entry ∈ resolver.document.values) :
      spelledOut entry ∈ resolver.document.values ∨
        ∃ text, spelledOut entry = spelledOut (.str text) := by
    cases entry with
    | str text => exact .inr ⟨text, rfl⟩
    | _ => exact .inl inside
  cases offered with
  | uniform => exact .inl known
  | listed inside =>
    exact spelled (Json.mem_values_of_part (List.mem_of_getElem? inside) _ known)
  | alternative several inside =>
    have listed := Json.mem_values_of_member known (Json.mem_of_lookup several)
    exact spelled (Json.mem_values_of_part (List.mem_of_getElem? inside) _ listed)

theorem mem_values_of_element {parent : String} {items : Json}
    (found : (resolver.inspect entry path).outcome = .ok finding)
    (known : entry ∈ resolver.document.values)
    (listing : finding.reference.schema.member? "items" = .ok (some items))
    (offered : items.Offers position raw) (placed : resolver.Found raw parent key position site) :
    site.schema ∈ resolver.document.values := by
  have items := Json.mem_values_of_lookup (mem_values_of_inspect found known) listing
  exact mem_values_of_found placed (mem_values_of_offer offered items)

theorem Child.mem_values (below : resolver.Child parent child)
    (known : parent.schema ∈ resolver.document.values) :
    child.schema ∈ resolver.document.values := by
  cases below with
  | value declared found =>
    exact mem_values_of_found found (.inl (mem_values_of_declares declared known))
  | element declared behind list listing offered found =>
    exact mem_values_of_element behind (mem_values_of_declares declared known) listing offered found

theorem Start.mem_values (start : resolver.Start site) :
    site.schema ∈ resolver.document.values := by
  have whole := Json.mem_values_self resolver.document
  cases start with
  | whole found modelled named => exact mem_values_of_inspect found whole
  | element found named listing offered placed =>
    exact mem_values_of_element found whole listing offered placed

theorem size_definitions : resolver.definitions.size ≤ resolver.document.weight := by
  rw [Definitions.size]
  cases table : resolver.definitions with
  | other value kind => exact Nat.zero_le _
  | table members =>
    rw [Definitions.names, List.length_map]
    rcases definitions_table table with rfl | ⟨others, document, known⟩
    · exact Nat.zero_le _
    · have inner := Json.weight_le_of_mem (Json.mem_of_lookup known)
      have count := Json.length_le_membersWeight members
      rw [Json.weight] at inner
      rw [document, Json.weight]
      omega

theorem length_givenBases (resolver : Resolver) :
    (resolver.givenBases resolver.document.values).length ≤ 2 * resolver.document.weight := by
  have overrides := List.length_filterMap_le
    (fun schema => (resolver.settings.override? schema).toOption.join) resolver.document.values
  have values := resolver.document.length_values
  have names := resolver.size_definitions
  rw [Definitions.size] at names
  rw [givenBases, List.length_map, List.length_append]
  omega

/-- The budget has a level for everything there is room for at the root. -/
theorem room_le_budget (resolver : Resolver) :
    resolver.room resolver.document.values [] [] ≤ resolver.budget := by
  have given : ((resolver.givenBases resolver.document.values).filter fun base =>
      resolver.settings.modelName base ∉ []).length ≤ 2 * resolver.document.weight :=
    Nat.le_trans (List.length_filter_le _ _) resolver.length_givenBases
  have values := resolver.document.length_values
  have product := Nat.mul_le_mul given (Nat.succ_le_succ values)
  have cubed : 2 * resolver.document.weight * (resolver.document.weight + 1) +
      resolver.document.weight + 1 ≤ (resolver.document.weight + 2) ^ 3 := by
    nlinarith [Nat.zero_le (resolver.document.weight ^ 2), Nat.zero_le (resolver.document.weight ^ 3)]
  rw [room, budget, List.length_nil]
  simp only [Nat.succ_eq_add_one] at product
  omega

end Resolver

namespace Walk

/-- More budget changes nothing for a walk that has had enough. -/
theorem of_le {resolver : Resolver} {budget more : Nat} {enclosing : List String} {acts : List Act}
    {progress final : Progress} {outcome : Except Failure Unit}
    (walk : Walk resolver budget enclosing acts progress outcome final)
    (enough : outcome ≠ .error .exhausted) (greater : budget ≤ more) :
    Walk resolver more enclosing acts progress outcome final := by
  have level {budget more : Nat} (greater : budget + 1 ≤ more) :
      ∃ below, more = below + 1 ∧ budget ≤ below := ⟨more - 1, by omega, by omega⟩
  induction walk generalizing more with
  | done => exact .done
  | note rest ih => exact .note (ih enough greater)
  | exhausted => exact absurd rfl enough
  | collided refused =>
    obtain ⟨below, rfl, -⟩ := level greater
    exact .collided refused
  | reused known rest ih =>
    obtain ⟨below, rfl, -⟩ := level greater
    exact .reused known (ih enough greater)
  | failed claimed inner ih =>
    obtain ⟨below, rfl, lower⟩ := level greater
    exact .failed claimed (ih enough lower)
  | unfinished claimed inner fault ih =>
    obtain ⟨below, rfl, lower⟩ := level greater
    exact .unfinished claimed (ih nofun lower) fault
  | unstored claimed inner built refused ih =>
    obtain ⟨below, rfl, lower⟩ := level greater
    exact .unstored claimed (ih nofun lower) built refused
  | stored claimed inner built kept rest ih ihRest =>
    obtain ⟨below, rfl, lower⟩ := level greater
    exact .stored claimed (ih nofun lower) built kept (ihRest enough greater)

end Walk

namespace Resolver

variable {resolver : Resolver}

theorem confined_of_acyclic (acyclic : ∀ schema ∈ resolver.document.values,
    ¬ Relation.TransGen resolver.PathStep schema schema) :
    resolver.Confined resolver.document.values fun site =>
      site.schema ∈ resolver.document.values where
  pooled _ inside := inside
  stable _ inside _ visited := (child_of_mem_visits visited).mem_values inside
  steady first last inside steps same := by
    have path : Relation.TransGen resolver.PathStep first.schema last.schema :=
      Relation.TransGen.lift Site.schema
        (fun _ _ ⟨key, position, step, _⟩ => ⟨key, position, step⟩) first last steps
    rw [← same] at path
    exact absurd path (acyclic first.schema inside)

/-- Steps by path lead to smaller schemas, unless they lead through a reference to a list. -/
theorem PathStep.weight_lt {first second : Json} (step : resolver.PathStep first second)
    (flat : ∀ members name schema path inferred, resolver.definitions = .table members →
      members.lookup name = some schema → Inferred.ofSchema schema false path = .ok inferred →
      inferred.tag ≠ .array) : second.weight < first.weight := by
  have entries {key : String} {entry : Json} (declared : first.Declares key entry) :
      entry.weight < first.weight := by
    obtain ⟨members, object, inside⟩ := declared
    have whole := Json.weight_lt_of_part (Json.part_of_member? (propertiesOf_ok.mp object))
    have part : entry ∈ (Json.obj members).parts := List.mem_map_of_mem inside
    have inner := Json.weight_lt_of_part part
    omega
  obtain ⟨_, _, step⟩ := step
  cases step with
  | value declared => exact entries declared
  | element declared behind list listing offered named =>
    obtain ⟨resolved, found⟩ := inspect_ok.mp behind
    obtain ⟨-, tagged, -⟩ := findingOf_ok.mp found
    have outer := entries declared
    -- a list behind a reference would be a definition, so the list stands in the entry itself
    rcases Definitions.resolve_ok resolved with ⟨same, -⟩ | ⟨members, name, table, -, inside⟩
    · have inner := Json.weight_lt_of_part (Json.part_of_member? listing)
      rw [same] at inner
      have spelled {entry : Json} (modelled : (spelledOut entry).IsModelled) :
          spelledOut entry = entry := by
        cases entry with
        | str text =>
          obtain ⟨path, inferred, -, -, declared⟩ := modelled
          cases declared
        | _ => rfl
      cases offered with
      | uniform => omega
      | listed member =>
        rw [spelled named.object]
        have part := Json.weight_lt_of_item (List.mem_of_getElem? member)
        omega
      | @alternative members entries _ _ several member =>
        rw [spelled named.object]
        have part := Json.weight_lt_of_item (List.mem_of_getElem? member)
        have listed : Json.arr entries ∈ (Json.obj members).parts :=
          List.mem_map_of_mem (Json.mem_of_lookup several)
        have list := Json.weight_lt_of_part listed
        omega
    · exact absurd list (flat members name _ _ _ table inside tagged)

/-- No schema comes back to itself by path if no definition is a list. -/
theorem acyclic_of_flat
    (flat : ∀ members name schema path inferred, resolver.definitions = .table members →
      members.lookup name = some schema → Inferred.ofSchema schema false path = .ok inferred →
      inferred.tag ≠ .array) (schema : Json) :
    ¬ Relation.TransGen resolver.PathStep schema schema := by
  intro steps
  have lighter : ∀ first second, Relation.TransGen resolver.PathStep first second →
      second.weight < first.weight := by
    intro first second path
    induction path with
    | single step => exact step.weight_lt flat
    | tail _ step ih => exact Nat.lt_trans (step.weight_lt flat) ih
  exact Nat.lt_irrefl _ (lighter schema schema steps)

theorem resolveWithin_of_le {resolver : Resolver} {budget more : Nat} {start : Progress}
    (enough : ((resolver.resolveWithin budget).run start).1 ≠ .error .exhausted)
    (greater : budget ≤ more) :
    (resolver.resolveWithin more).run start = (resolver.resolveWithin budget).run start := by
  obtain ⟨outcome, middle, walk⟩ :=
    Walk.exists_walk resolver budget [] resolver.root.acts (resolver.started start)
  refine resolveWithin_congr ?_
  refine (Walk.played_eq (walk.of_le ?_ greater)).trans (Walk.played_eq walk).symm
  rintro rfl
  apply enough
  have failed := Run.run_bind_of_error (Walk.play_of_error walk) fun _ => Run.freeze
  exact congrArg Prod.fst (resolveWithin_of_error failed)

/-- A resolution comes to an end on every document where no object schema with properties of its own
comes back to itself by steps by path: the budget suffices, and any greater one gives the same. -/
theorem resolve_terminates (resolver : Resolver) (acyclic : ∀ schema ∈ resolver.document.values,
    ¬ Relation.TransGen resolver.PathStep schema schema) (start : Progress) :
    (resolver.resolve.run start).1 ≠ .error .exhausted ∧
      ∀ budget, resolver.budget ≤ budget →
        (resolver.resolveWithin budget).run start = resolver.resolve.run start := by
  obtain ⟨outcome, middle, walk⟩ := Walk.exists_walk resolver resolver.budget [] resolver.root.acts
    (resolver.started start)
  have enough : outcome ≠ .error .exhausted := by
    refine walk.not_exhausted (confined_of_acyclic acyclic) (trail_nil _ _) ?_ (by simp)
      resolver.room_le_budget
    intro child inside
    exact ⟨(start_of_mem_visits (Script.mem_visits.mpr inside)).mem_values, .inr (by simp)⟩
  constructor
  · intro exhausted
    obtain ⟨after, -, other | ⟨last, -, -, fault⟩⟩ := resolveWithin_error (Prod.ext exhausted rfl)
    · exact enough (walk.unique other).1
    · rcases fault with fault | unfrozen
      · exact nomatch onlyFaults_root _ fault
      · exact Registry.freeze_ne_exhausted unfrozen
  · intro budget greater
    refine resolveWithin_congr ?_
    exact (Walk.played_eq (walk.of_le enough greater)).trans (Walk.played_eq walk).symm

/-- A schema named by path inside the one of a definition, to which it refers back. -/
def edgeSchema : Json := .obj [
  ("type", .str "object"),
  ("properties", .obj [("target", .obj [("$ref", .str "#/definitions/node")])])]

def nodeSchema : Json := .obj [
  ("type", .str "object"),
  ("properties", .obj [("edge", edgeSchema)])]

def graphDocument : Json := .obj [
  ("type", .str "object"),
  ("properties", .obj [("start", .obj [("$ref", .str "#/definitions/node")])]),
  ("definitions", .obj [("node", nodeSchema)])]

theorem flat_graphDocument (settings : Settings) :
    ∀ members name schema path inferred,
      definitions ⟨graphDocument, settings⟩ = .table members → members.lookup name = some schema →
      Inferred.ofSchema schema false path = .ok inferred → inferred.tag ≠ .array := by
  intro members name schema path inferred table inside tagged
  have known : definitions ⟨graphDocument, settings⟩ = .table [("node", nodeSchema)] := rfl
  cases known.symm.trans table
  have listed := Json.mem_of_lookup inside
  rw [List.mem_singleton] at listed
  cases listed
  have object : Inferred.ofSchema nodeSchema false path = .ok ⟨.object, false⟩ := rfl
  cases object.symm.trans tagged
  nofun

/-- There is a step by path, and a reference leads back to where it starts. -/
theorem resolve_terminates_graph :
    let resolver : Resolver := ⟨graphDocument, {}⟩
    resolver.PathStep nodeSchema edgeSchema ∧
    (∀ schema ∈ resolver.document.values, ¬ Relation.TransGen resolver.PathStep schema schema) ∧
    (resolver.resolve.run {}).1.toOption.map (·.map (·.1)) =
      some ["Model", "NodeModel", "NodeEdgeModel"] ∧
    (resolver.resolve.run {}).1 ≠ .error .exhausted ∧
      ∀ budget, resolver.budget ≤ budget →
        (resolver.resolveWithin budget).run {} = resolver.resolve.run {} := by
  intro resolver
  have named : resolver.NamedByPath edgeSchema :=
    ⟨rfl, ⟨none, ⟨.object, false⟩, rfl, rfl, rfl⟩, rfl⟩
  have declared : nodeSchema.Declares "edge" edgeSchema := ⟨_, rfl, List.mem_cons_self⟩
  have acyclic : ∀ schema ∈ resolver.document.values,
      ¬ Relation.TransGen resolver.PathStep schema schema :=
    fun schema _ => acyclic_of_flat (flat_graphDocument {}) schema
  have names : (resolver.resolve.run {}).1.toOption.map (·.map (·.1)) =
      some ["Model", "NodeModel", "NodeEdgeModel"] := by decide +kernel
  exact ⟨⟨"edge", none, .value declared named⟩, acyclic, names, resolve_terminates _ acyclic {}⟩

end Resolver

end SchemaCatalog
