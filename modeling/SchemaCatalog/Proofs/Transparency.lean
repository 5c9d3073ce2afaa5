import SchemaCatalog.Proofs.Depth
import SchemaCatalog.Proofs.Effects
import SchemaCatalog.Proofs.References

/-! References to definitions that have no model of their own. What stands behind the reference is
found at the same place with or without it, so properties and lists come out the same. Some
questions are asked before a reference is followed, though: for the override of a property, for
alternatives among the items of a list, and for null among these. Main statement: where
none of them is answered by the definition itself, a reference stands for its definition.
-/
namespace SchemaCatalog

namespace Definitions

variable {members : List (String × Json)} {name : String} {schema : Json}

def referenceTo (name : String) : Json := .obj [("$ref", .str (pointer ++ name))]

theorem resolve_of_reference {raw : Json} (refers : raw.RefersTo name)
    (bound : members.lookup name = some schema) (object : schema.isObject = true)
    (plain : schema.holds "$ref" = .ok false) (place : Option String) :
    (table members).resolve raw place = .ok ⟨schema, [name]⟩ := by
  obtain ⟨budget, size⟩ : ∃ budget, (table members).size = budget + 1 := by
    refine Nat.exists_eq_succ_of_ne_zero fun empty => ?_
    rw [List.map_eq_nil_iff.mp (List.eq_nil_of_length_eq_zero empty)] at bound
    cases bound
  rw [resolve, size, follow_hop refers List.not_mem_nil bound object]
  exact follow_of_plain plain _ _

theorem resolve_referenceTo (bound : members.lookup name = some schema)
    (object : schema.isObject = true) (plain : schema.holds "$ref" = .ok false) (named : name ≠ "")
    (place : Option String) :
    (table members).resolve (referenceTo name) place = .ok ⟨schema, [name]⟩ :=
  resolve_of_reference ⟨named, rfl⟩ bound object plain place

end Definitions

/-- Properties that tell the same of a value, and are of one name unless references carry overrides. -/
structure Property.Fits (settings : Settings) (one other : Property) : Prop where
  tag : other.tag = one.tag
  optional : other.optional = one.optional
  description : other.description = one.description
  modelName : other.modelName = one.modelName
  elementTypes : other.elementTypes = one.elementTypes
  hasProperties : other.hasProperties = one.hasProperties
  name : settings.overrideKey ≠ "$ref" → other.name = one.name

theorem Property.Fits.refl {settings : Settings} (property : Property) : property.Fits settings property :=
  ⟨rfl, rfl, rfl, rfl, rfl, rfl, fun _ => rfl⟩

/-- Findings of one schema, which has no model, however it was reached. -/
structure Finding.Fits (schema : Json) (one other : Finding) : Prop where
  behind : one.reference.schema = schema
  behind' : other.reference.schema = schema
  inferred : other.inferred = one.inferred
  modelless : one.hasModel = false
  modelless' : other.hasModel = false

namespace Resolver

open Definitions

variable {resolver : Resolver} {name parent key path : String} {schema : Json}

/-- A definition that is neither a reference nor an object schema with declared properties, and gives
itself no name. -/
structure Aliased (resolver : Resolver) (name : String) (schema : Json) : Prop where
  bound : ∃ members, resolver.definitions = .table members ∧ members.lookup name = some schema
  object : schema.isObject = true
  plain : schema.holds "$ref" = .ok false
  unnamed : resolver.settings.override? schema = .ok none
  bare : ¬ schema.IsModelled

section Fits

variable {one other : Finding} {position : Option Int}

theorem ownModel_fits (fits : Finding.Fits schema one other) :
    Script.Agrees Eq (resolver.ownModel one parent key position path)
      (resolver.ownModel other parent key position path) := by
  unfold Resolver.ownModel
  rw [fits.modelless, fits.modelless']
  exact .refl _

theorem held_fits (fits : Finding.Fits schema one other) :
    Script.Agrees Eq (resolver.held one parent key path) (resolver.held other parent key path) := by
  unfold Resolver.held
  rw [fits.behind, fits.behind', fits.inferred]
  exact .refl _

end Fits

theorem findingOf_chain (chain chain' : List String) (path : String) :
    findingOf ⟨schema, chain'⟩ path =
      (findingOf ⟨schema, chain⟩ path).map fun finding =>
        { finding with reference := ⟨schema, chain'⟩ } := by
  simp only [findingOf]
  cases Inferred.ofSchema schema false (some path) with
  | error failure => rfl
  | ok inferred =>
    cases declared : hasModel inferred.tag schema path <;>
      simp only [bind, Except.bind, Except.map, pure, Except.pure, declared]

theorem agrees_alternatives {entry entry' : Json} (before after : List Json) (first : Nat)
    (agrees : ∀ position, Script.Agrees Eq (resolver.alternative parent key path position entry)
      (resolver.alternative parent key path position entry')) :
    Script.Agrees Eq (resolver.alternatives parent key path first (before ++ entry :: after))
      (resolver.alternatives parent key path first (before ++ entry' :: after)) := by
  induction before generalizing first with
  | nil =>
    unfold alternatives
    refine .bind (agrees first) ?_
    rintro elements _ rfl
    exact .refl _
  | cons other before ih =>
    unfold alternatives
    refine .bind (.refl _) ?_
    rintro elements _ rfl
    refine .bind (ih (first + 1)) ?_
    rintro others _ rfl
    exact .refl _

theorem agrees_elements {list list' items items' : Json}
    (listed : list.member? "items" = .ok (some items))
    (listed' : list'.member? "items" = .ok (some items'))
    (agrees : Script.Agrees Eq (resolver.elementsOf parent key (path ++ "/items") items)
      (resolver.elementsOf parent key (path ++ "/items") items')) :
    Script.Agrees Eq (resolver.elements parent key path list)
      (resolver.elements parent key path list') := by
  unfold elements
  rw [listed, listed']
  exact agrees

theorem propertyName_of_override {settings : Settings} {own : Option String}
    (known : settings.override? schema = .ok own) (key : String) :
    settings.propertyName key schema = .ok (own.getD (Casing.camelize key)) := by
  rw [Settings.propertyName, known]
  rfl

/-- Only where overrides go by the name of references does a reference name its property. -/
theorem override?_referenceTo (settings : Settings) (name : String) :
    (settings.overrideKey = "$ref" ∧
        settings.override? (referenceTo name) = .ok (some (pointer ++ name))) ∨
      settings.overrideKey ≠ "$ref" ∧ settings.override? (referenceTo name) = .ok none := by
  by_cases same : settings.overrideKey = "$ref"
  · have filled : (pointer ++ name).isEmpty = false := by simp [pointer]
    refine .inl ⟨same, ?_⟩
    rw [Settings.override?, same]
    change Except.ok (if (pointer ++ name).isEmpty then none else some (pointer ++ name)) = _
    rw [filled, if_neg Bool.false_ne_true]
  · have looked : (referenceTo name).member? settings.overrideKey = .ok none := by
      rw [referenceTo, Json.member?, List.lookup_cons, beq_false_of_ne same]
      rfl
    refine .inr ⟨same, ?_⟩
    rw [Settings.override?, looked]
    rfl

theorem text?_of_isObject (object : schema.isObject = true) : schema.text? = none := by
  cases schema with
  | obj members => rfl
  | _ => cases object

theorem described_of_named {settings : Settings} {entry : Json} {text : String}
    (spelled : settings.propertyName key entry = .ok text) (named : text ≠ "") (isRequired : Bool)
    (finding : Finding) (modelName : Option String) (elements : Elements) :
    described settings key entry isRequired finding modelName elements =
      (Failure.ofMisuse (descriptionOf entry finding.reference.schema)).map fun description =>
        { name := text, named, description, modelName
          tag := finding.inferred.tag
          optional := finding.inferred.optional || !isRequired || elements.nullable
          elementTypes := elements.names
          hasProperties := modelName.isSome } := by
  unfold described
  rw [spelled]
  cases Failure.ofMisuse (descriptionOf entry finding.reference.schema) with
  | error failure => rfl
  | ok description => exact dif_pos named

namespace Aliased

theorem modelless (aliased : resolver.Aliased name schema) {chain : List String} {finding : Finding}
    (found : findingOf ⟨schema, chain⟩ path = .ok finding) : finding.hasModel = false :=
  Bool.eq_false_iff.mpr fun modelled => aliased.bare (isModelled_of_findingOf found modelled)

theorem findingOf_fits (aliased : resolver.Aliased name schema) (chain chain' : List String)
    (path : String) :
    Accord (Finding.Fits schema) (findingOf ⟨schema, chain⟩ path)
      (findingOf ⟨schema, chain'⟩ path) := by
  rw [findingOf_chain chain chain']
  cases found : findingOf ⟨schema, chain⟩ path with
  | error failure => exact .error failure
  | ok finding =>
    have modelless := aliased.modelless found
    have reference := (findingOf_ok.mp found).1
    exact .ok ⟨congrArg Reference.schema reference, rfl, rfl, modelless, modelless⟩

theorem inspect (aliased : resolver.Aliased name schema) (named : name ≠ "") (path : String) :
    Script.Agrees (Finding.Fits schema) (resolver.inspect schema path)
      (resolver.inspect (referenceTo name) path) := by
  obtain ⟨members, table, bound⟩ := aliased.bound
  have first : resolver.definitions.resolve schema (some path) = .ok ⟨schema, []⟩ :=
    resolve_of_plain aliased.plain _
  have second : resolver.definitions.resolve (referenceTo name) (some path) = .ok ⟨schema, [name]⟩ :=
    table ▸ resolve_referenceTo bound aliased.object aliased.plain named _
  unfold Resolver.inspect
  rw [first, second]
  exact (Script.Agrees.note (.followed []) (.followed [name])).bind fun _ _ _ =>
    .attempt (aliased.findingOf_fits [] [name] path)

theorem uniform (aliased : resolver.Aliased name schema) (named : name ≠ "") :
    Script.Agrees Eq (resolver.uniform parent key path schema)
      (resolver.uniform parent key path (referenceTo name)) := by
  unfold Resolver.uniform
  refine .bind (aliased.inspect named path) fun one other fits => ?_
  refine .bind (ownModel_fits fits) ?_
  rintro modelName _ rfl
  exact .refl _

theorem alternative (aliased : resolver.Aliased name schema) (named : name ≠ "")
    (typed : schema.member? "type" ≠ .ok (some (.str "null"))) (position : Nat) :
    Script.Agrees Eq (resolver.alternative parent key path position schema)
      (resolver.alternative parent key path position (referenceTo name)) := by
  have fits := aliased.inspect named (path ++ "/" ++ toString position)
  cases schema with
  | obj members =>
    have not_null : isNull members = false :=
      Bool.eq_false_iff.mpr fun null => typed (type_of_isNull null)
    unfold Resolver.alternative
    dsimp only [spelledOut, referenceTo]
    rw [not_null]
    refine .bind fits fun one other fits => ?_
    refine .bind (ownModel_fits fits) ?_
    rintro modelName _ rfl
    rw [fits.inferred]
    exact .refl _
  | _ => cases aliased.object

theorem description (aliased : resolver.Aliased name schema) :
    descriptionOf (referenceTo name) schema = descriptionOf schema schema := by
  cases schema with
  | obj members =>
    change Except.ok (none <|> (members.lookup "description").bind Json.text?) =
      .ok ((members.lookup "description").bind Json.text? <|>
        (members.lookup "description").bind Json.text?)
    cases (members.lookup "description").bind Json.text? <;> rfl
  | _ => cases aliased.object

theorem described (aliased : resolver.Aliased name schema) {one other : Finding}
    (fits : Finding.Fits schema one other)
    (clear : resolver.settings.overrideKey = "$ref" → Casing.camelize key ≠ "") (isRequired : Bool)
    (modelName : Option String) (elements : Elements) :
    Accord (Property.Fits resolver.settings)
      (described resolver.settings key schema isRequired one modelName elements)
      (described resolver.settings key (referenceTo name) isRequired other modelName elements) := by
  have plain := propertyName_of_override aliased.unnamed key
  have description := aliased.description
  -- a reference can name its property only where the name is no part of what is compared
  rcases override?_referenceTo resolver.settings name with ⟨same, own⟩ | ⟨apart, own⟩
  · have filled : pointer ++ name ≠ "" := by simp [pointer]
    rw [described_of_named plain (clear same),
      described_of_named (propertyName_of_override own key) filled, fits.behind, fits.behind',
      fits.inferred, description]
    exact .map (fun _ => ⟨rfl, rfl, rfl, rfl, rfl, rfl, fun apart => absurd same apart⟩) _
  · unfold Resolver.described
    rw [plain, propertyName_of_override own key, fits.behind, fits.behind', fits.inferred, description]
    exact (Accord.refl _).imp fun property _ equal => equal ▸ .refl property

theorem property (aliased : resolver.Aliased name schema) (named : name ≠ "")
    (clear : resolver.settings.overrideKey = "$ref" → Casing.camelize key ≠ "") (site : Site)
    (required : List Json) :
    Script.Agrees (Property.Fits resolver.settings) (resolver.property site required key schema)
      (resolver.property site required key (referenceTo name)) := by
  unfold Resolver.property
  dsimp only
  rw [if_pos aliased.object]
  refine .bind (aliased.inspect named _) fun one other fits => ?_
  refine .bind (ownModel_fits fits) ?_
  rintro modelName _ rfl
  refine .bind (held_fits fits) ?_
  rintro elements _ rfl
  exact .attempt (aliased.described fits clear _ _ _)

end Aliased

/-- How a definition and a reference to it compare, in every place where one can stand for the other. -/
structure Transparent (resolver : Resolver) (name : String) (schema : Json) : Prop where
  /-- as a property, whose name has to come from the key unless overrides go by the name of references -/
  property : ∀ site required key,
    (resolver.settings.overrideKey = "$ref" → Casing.camelize key ≠ "") →
      resolver.SameEffect (Property.Fits resolver.settings)
        (resolver.property site required key schema)
        (resolver.property site required key (referenceTo name))
  /-- as the schema of all items, unless it lists alternatives for these itself -/
  items : schema.holds "anyOf" = .ok false → ∀ parent key path list list',
    list.member? "items" = .ok (some schema) →
    list'.member? "items" = .ok (some (referenceTo name)) →
      resolver.SameEffect Eq (resolver.elements parent key path list)
        (resolver.elements parent key path list')
  /-- as one of several schemas for items, unless it is null itself -/
  entry : schema.member? "type" ≠ .ok (some (.str "null")) → ∀ before after items items',
    (items = .arr (before ++ schema :: after) ∧
        items' = .arr (before ++ referenceTo name :: after)) ∨
      (items.member? "anyOf" = .ok (some (.arr (before ++ schema :: after))) ∧
        items'.member? "anyOf" = .ok (some (.arr (before ++ referenceTo name :: after)))) →
    ∀ parent key path list list',
      list.member? "items" = .ok (some items) → list'.member? "items" = .ok (some items') →
        resolver.SameEffect Eq (resolver.elements parent key path list)
          (resolver.elements parent key path list')

namespace Aliased

theorem elementsOf (aliased : resolver.Aliased name schema) (named : name ≠ "")
    (single : schema.holds "anyOf" = .ok false) :
    Script.Agrees Eq (resolver.elementsOf parent key path schema)
      (resolver.elementsOf parent key path (referenceTo name)) := by
  cases schema with
  | obj members =>
    have absent := Json.lookup_eq_none_of_holds single
    unfold Resolver.elementsOf
    dsimp only [referenceTo]
    rw [absent]
    exact aliased.uniform named
  | _ => cases aliased.object

theorem among (aliased : resolver.Aliased name schema) (named : name ≠ "")
    (typed : schema.member? "type" ≠ .ok (some (.str "null"))) {before after : List Json}
    {items items' : Json}
    (listed : (items = .arr (before ++ schema :: after) ∧
        items' = .arr (before ++ referenceTo name :: after)) ∨
      (items.member? "anyOf" = .ok (some (.arr (before ++ schema :: after))) ∧
        items'.member? "anyOf" = .ok (some (.arr (before ++ referenceTo name :: after))))) :
    Script.Agrees Eq (resolver.elementsOf parent key path items)
      (resolver.elementsOf parent key path items') := by
  have agrees (path : String) : Script.Agrees Eq
      (resolver.alternatives parent key path 0 (before ++ schema :: after))
      (resolver.alternatives parent key path 0 (before ++ referenceTo name :: after)) :=
    agrees_alternatives before after 0 (aliased.alternative named typed)
  rcases listed with ⟨rfl, rfl⟩ | ⟨listed, listed'⟩
  · have spelled {entry : Json} (object : entry.isObject = true) :
        (before ++ entry :: after).all (·.text?.isSome) = false := by
      rw [List.all_append, List.all_cons, text?_of_isObject object]
      simp
    unfold Resolver.elementsOf
    dsimp only
    rw [spelled aliased.object, spelled rfl]
    exact agrees path
  · obtain ⟨members, rfl, offered⟩ := Json.member?_eq_ok.mp listed
    obtain ⟨members', rfl, offered'⟩ := Json.member?_eq_ok.mp listed'
    unfold Resolver.elementsOf
    dsimp only
    rw [offered, offered']
    exact agrees (path ++ "/anyOf")

end Aliased

/-- A definition without a model of its own can be replaced by a reference to it. -/
theorem reference_transparent (aliased : resolver.Aliased name schema) (named : name ≠ "") :
    resolver.Transparent name schema where
  property site required _ clear := sameEffect_of_agrees (aliased.property named clear site required)
  items single _ _ _ _ _ listed listed' :=
    sameEffect_of_agrees (agrees_elements listed listed' (aliased.elementsOf named single))
  entry typed _ _ _ _ offered _ _ _ _ _ listed listed' :=
    sameEffect_of_agrees (agrees_elements listed listed' (aliased.among named typed offered))

/-- A definition that lists alternatives. -/
def choiceSchema : Json := .obj [("anyOf", .arr [.str "string", .str "null"])]

def nullSchema : Json := .obj [("type", .str "null")]

def textSchema : Json := .obj [("type", .str "string"), ("description", .str "Words.")]

def forwardDocument : Json := .obj [("definitions", .obj [
  ("choice", choiceSchema), ("nothing", nullSchema), ("", textSchema), ("text", textSchema)])]

def forwardResolver : Resolver := ⟨forwardDocument, {}⟩

def renamedResolver : Resolver := ⟨forwardDocument, { overrideKey := "$ref" }⟩

theorem aliased_choice : forwardResolver.Aliased "choice" choiceSchema where
  bound := ⟨_, rfl, rfl⟩
  object := rfl
  plain := rfl
  unnamed := rfl
  bare := by
    rintro ⟨path, inferred, tagged, -⟩
    cases tagged

theorem aliased_null : forwardResolver.Aliased "nothing" nullSchema where
  bound := ⟨_, rfl, rfl⟩
  object := rfl
  plain := rfl
  unnamed := rfl
  bare := by
    rintro ⟨path, inferred, tagged, object, -⟩
    cases tagged
    cases object

theorem aliased_text (bound : ∃ members, resolver.definitions = .table members ∧
    members.lookup name = some textSchema)
    (unnamed : resolver.settings.override? textSchema = .ok none) :
    resolver.Aliased name textSchema where
  bound := bound
  object := rfl
  plain := rfl
  unnamed := unnamed
  bare := by
    rintro ⟨path, inferred, tagged, object, -⟩
    cases tagged
    cases object

theorem reference_transparent_text : forwardResolver.Aliased "text" textSchema ∧ "text" ≠ "" ∧
    forwardResolver.Transparent "text" textSchema :=
  have aliased := aliased_text ⟨_, rfl, rfl⟩ rfl
  ⟨aliased, by decide, reference_transparent aliased (by decide)⟩

def listOf (items : Json) : Json := .obj [("type", .str "array"), ("items", items)]

def forwardSite : Site := ⟨.obj [], "Root", "#"⟩

/-- A reference does not stand for a definition that lists alternatives, is null, has no name, or
renames the property. -/
theorem reference_opaque :
    (forwardResolver.Aliased "choice" choiceSchema ∧
      ¬ forwardResolver.SameEffect Eq
        (forwardResolver.elements "Root" "key" "#" (listOf choiceSchema))
        (forwardResolver.elements "Root" "key" "#" (listOf (referenceTo "choice")))) ∧
    (forwardResolver.Aliased "nothing" nullSchema ∧
      ¬ forwardResolver.SameEffect Eq
        (forwardResolver.elements "Root" "key" "#" (listOf (.arr [nullSchema])))
        (forwardResolver.elements "Root" "key" "#" (listOf (.arr [referenceTo "nothing"])))) ∧
    (forwardResolver.Aliased "" textSchema ∧
      ¬ forwardResolver.SameEffect (Property.Fits {})
        (forwardResolver.property forwardSite [] "key" textSchema)
        (forwardResolver.property forwardSite [] "key" (referenceTo ""))) ∧
    renamedResolver.Aliased "text" textSchema ∧
      ¬ renamedResolver.SameEffect (Property.Fits renamedResolver.settings)
        (renamedResolver.property forwardSite [] "_" textSchema)
        (renamedResolver.property forwardSite [] "_" (referenceTo "text")) := by
  refine ⟨⟨aliased_choice, fun same => ?_⟩, ⟨aliased_null, fun same => ?_⟩,
    ⟨aliased_text ⟨_, rfl, rfl⟩ rfl, fun same => ?_⟩,
    aliased_text ⟨_, rfl, rfl⟩ rfl, fun same => ?_⟩
  · cases same.outcome rfl rfl
  · cases same.outcome rfl rfl with
    | ok here => cases congrArg Elements.nullable here
  · cases same.outcome rfl rfl
  · cases same.outcome rfl rfl

end Resolver

end SchemaCatalog
