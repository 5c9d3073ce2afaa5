import SchemaCatalog.Proofs.Findings
import SchemaCatalog.Proofs.References

/-! What can go wrong in a walk through a schema. Lookups in an object succeed, so it is a fault of the
schema, with its place; a name that is empty; or a name that was looked for among definitions that are
no table. Nothing a registry complains about is among these, and following references never runs out
of its budget, as the names on a chain are distinct names of the table. The lemmas follow the
functions of the walk, one for each.
-/
namespace SchemaCatalog

def Cause.isFault : Cause → Bool
  | typeAbsent | typeMalformed | typeUnknown _ | enumNotList | enumLiteralNested
  | propertiesNotObject | propertyNotObject | requiredNotList | itemsMalformed | alternativesNotList
  | itemNotSchema | definitionMissing _ _ | referenceCycle _ => true
  | _ => false

def Cause.isOfTag : Cause → Bool
  | typeAbsent | typeMalformed | typeUnknown _ | enumNotList | enumLiteralNested => true
  | _ => false

theorem Cause.isFault_of_isOfTag {cause : Cause} (fault : cause.isOfTag = true) :
    cause.isFault = true := by
  cases cause with
  | typeAbsent | typeMalformed | typeUnknown | enumNotList | enumLiteralNested => rfl
  | _ => cases fault

/-- Failures over the tag of a schema at a path. -/
inductive Failure.OfTagAt (path : String) : Failure → Prop
  | problem {cause details} (fault : cause.isOfTag = true) :
      OfTagAt path (.problem ⟨cause, some path, details⟩)

/-- Failures over a schema at a path, where it is an object. -/
inductive Failure.OfSchemaAt (definitions : Definitions) (path : String) : Failure → Prop
  | problem {cause details} (fault : cause.isFault = true) :
      OfSchemaAt definitions path (.problem ⟨cause, some path, details⟩)
  | misuse {misuse value kind} (among : misuse ∈ [.unsearchable, .unindexable, .unsortable])
      (other : definitions = .other value kind) : OfSchemaAt definitions path (.misuse misuse)

/-- A problem of one cause at a path. -/
def Failure.By (cause : Cause) (path : String) (failure : Failure) : Prop :=
  ∃ details, failure = .problem ⟨cause, some path, details⟩

/-- Failures over a schema that is an object. -/
inductive Failure.OfSchema (definitions : Definitions) : Failure → Prop
  | problem {cause details} (path : String) (fault : cause.isFault = true) :
      OfSchema definitions (.problem ⟨cause, some path, details⟩)
  | misuse {misuse value kind} (among : misuse ∈ [.unsearchable, .unindexable, .unsortable])
      (other : definitions = .other value kind) : OfSchema definitions (.misuse misuse)

/-- Failures over the property of a key. -/
inductive Failure.OfProperty (resolver : Resolver) (key : String) (entry : Json) : Failure → Prop
  | schema {failure} (fault : failure.OfSchema resolver.definitions) :
      OfProperty resolver key entry failure
  | nameless (empty : resolver.settings.propertyName key entry = .ok "") :
      OfProperty resolver key entry (.nameless .property)

/-- Failures over the model of a site with properties of its own. -/
inductive Failure.OfModel (resolver : Resolver) (site : Site) : Failure → Prop
  | schema {failure} (fault : failure.OfSchema resolver.definitions) : OfModel resolver site failure
  | property {key entry failure} (declared : site.schema.Declares key entry)
      (fault : failure.OfProperty resolver key entry) : OfModel resolver site failure
  | nameless (empty : resolver.nameOf site = "") : OfModel resolver site (.nameless .model)

/-- Failures of walks through any value at all. -/
inductive Failure.OfWalk : Failure → Prop
  | problem {cause details} (path : String) (fault : cause.isFault = true) :
      OfWalk (.problem ⟨cause, some path, details⟩)
  | nameless (subject : Subject) : OfWalk (.nameless subject)
  | misuse (misuse : Misuse) : OfWalk (.misuse misuse)

section

variable {definitions : Definitions} {resolver : Resolver} {key : String} {entry : Json}
  {failure : Failure}

theorem Failure.By.ofSchemaAt {cause : Cause} {path : String} (fault : cause.isFault = true)
    (known : failure.By cause path) : failure.OfSchemaAt definitions path := by
  obtain ⟨details, rfl⟩ := known
  exact .problem fault

theorem Failure.OfTagAt.ofSchemaAt {path : String} (fault : failure.OfTagAt path) :
    failure.OfSchemaAt definitions path := by
  cases fault with
  | problem fault => exact .problem (Cause.isFault_of_isOfTag fault)

theorem Failure.OfSchemaAt.ofSchema {path : String} (fault : failure.OfSchemaAt definitions path) :
    failure.OfSchema definitions := by
  cases fault with
  | problem fault => exact .problem path fault
  | misuse among other => exact .misuse among other

theorem Failure.OfSchema.ofWalk (fault : failure.OfSchema definitions) : failure.OfWalk := by
  cases fault with
  | problem path fault => exact .problem path fault
  | misuse => exact .misuse _

theorem Failure.OfProperty.ofWalk (fault : failure.OfProperty resolver key entry) : failure.OfWalk := by
  cases fault with
  | schema fault => exact fault.ofWalk
  | nameless => exact .nameless _

end

def OnlyFails {α : Type} (allowed : Failure → Prop) (outcome : Except Failure α) : Prop :=
  ∀ failure, outcome = .error failure → allowed failure

section Combinations

variable {α β : Type} {allowed more : Failure → Prop}

theorem onlyFails_ok (value : α) : OnlyFails allowed (.ok value) := nofun

theorem onlyFails_error {failure : Failure} (fault : allowed failure) :
    OnlyFails allowed (.error failure : Except Failure α) := by
  rintro _ ⟨⟩
  exact fault

theorem OnlyFails.mono {outcome : Except Failure α} (before : OnlyFails allowed outcome)
    (weaker : ∀ failure, allowed failure → more failure) : OnlyFails more outcome :=
  fun failure failed => weaker failure (before failure failed)

theorem onlyFails_ofMisuse {outcome : Except Misuse α}
    (fault : ∀ misuse, outcome = .error misuse → allowed (.misuse misuse)) :
    OnlyFails allowed (Failure.ofMisuse outcome) := by
  cases outcome with
  | ok value => exact onlyFails_ok value
  | error misuse => exact onlyFails_error (fault misuse rfl)

theorem OnlyFails.bind_of_ok {first : Except Failure α} (before : OnlyFails allowed first)
    {next : α → Except Failure β}
    (after : ∀ value, first = .ok value → OnlyFails allowed (next value)) :
    OnlyFails allowed (first >>= next) := by
  cases first with
  | ok value => exact after value rfl
  | error failure => exact onlyFails_error (before failure rfl)

theorem OnlyFails.bind {first : Except Failure α} (before : OnlyFails allowed first)
    {next : α → Except Failure β} (after : ∀ value, OnlyFails allowed (next value)) :
    OnlyFails allowed (first >>= next) :=
  before.bind_of_ok fun value _ => after value

theorem onlyFails_mapM {step : α → Except Failure β} (each : ∀ item, OnlyFails allowed (step item))
    (items : List α) : OnlyFails allowed (items.mapM step) := by
  induction items with
  | nil => exact onlyFails_ok []
  | cons item items ih =>
    rw [List.mapM_cons]
    exact (each item).bind fun _ => ih.bind fun _ => onlyFails_ok _

theorem onlyFails_script_bind_of_ok {first : Script α} (before : OnlyFails allowed first.outcome)
    {next : α → Script β}
    (after : ∀ value, first.outcome = .ok value → OnlyFails allowed (next value).outcome) :
    OnlyFails allowed (first >>= next).outcome := by
  cases outcome : first.outcome with
  | ok value =>
    rw [Script.bind_of_ok outcome]
    exact after value outcome
  | error failure =>
    rw [Script.bind_of_error outcome]
    exact onlyFails_error (before failure outcome)

theorem onlyFails_script_bind {first : Script α} (before : OnlyFails allowed first.outcome)
    {next : α → Script β} (after : ∀ value, OnlyFails allowed (next value).outcome) :
    OnlyFails allowed (first >>= next).outcome :=
  onlyFails_script_bind_of_ok before fun value _ => after value

theorem onlyFails_script_mapM {walk : α → Script β} {items : List α}
    (each : ∀ item ∈ items, OnlyFails allowed (walk item).outcome) :
    OnlyFails allowed (items.mapM walk).outcome := by
  induction items with
  | nil => exact onlyFails_ok []
  | cons item items ih =>
    rw [List.mapM_cons]
    refine onlyFails_script_bind (each item List.mem_cons_self) fun _ => ?_
    refine onlyFails_script_bind ?_ fun _ => onlyFails_ok _
    exact ih fun item inside => each item (List.mem_cons_of_mem _ inside)

end Combinations

section Lookups

variable {allowed : Failure → Prop} {value : Json} {name : String}

theorem Json.eq_obj (object : value.isObject = true) : ∃ members, value = .obj members := by
  cases value with
  | obj members => exact ⟨members, rfl⟩
  | _ => cases object

theorem onlyFails_holds (object : value.isObject = true) (name : String) :
    OnlyFails allowed (Failure.ofMisuse (value.holds name)) := by
  obtain ⟨members, rfl⟩ := Json.eq_obj object
  exact onlyFails_ok _

theorem onlyFails_member? (object : value.isObject = true) (name : String) :
    OnlyFails allowed (Failure.ofMisuse (value.member? name)) := by
  obtain ⟨members, rfl⟩ := Json.eq_obj object
  exact onlyFails_ok _

/-- The entry of a name that an object holds is there. -/
theorem onlyFails_entry (object : value.isObject = true)
    (held : Failure.ofMisuse (value.holds name) = .ok true) :
    OnlyFails allowed (Failure.ofMisuse (value.entry name)) := by
  obtain ⟨members, rfl⟩ := Json.eq_obj object
  have listed : members.any (·.1 == name) = true := Except.ok.inj held
  obtain ⟨member, inside, same⟩ := List.any_eq_true.mp listed
  cases found : members.lookup name with
  | some value =>
    rw [Json.entry, found]
    exact onlyFails_ok _
  | none =>
    have absent := List.lookup_eq_none_iff.mp found member inside
    rw [beq_iff_eq.mp same, bne_self_eq_false] at absent
    cases absent

end Lookups

open Failure (OfTagAt OfSchemaAt OfSchema OfProperty OfModel OfWalk)

theorem OnlyFails.ofSchema {α : Type} {definitions : Definitions} {path : String}
    {outcome : Except Failure α} (fails : OnlyFails (OfSchemaAt definitions path) outcome) :
    OnlyFails (OfSchema definitions) outcome := fails.mono fun _ fault => fault.ofSchema

section Functions

variable {definitions : Definitions} {path : String} {schema : Json} {allowed : Failure → Prop}

theorem onlyFails_problem {α : Type} {cause : Cause} (details : Option String)
    (fault : cause.isFault = true) :
    OnlyFails (OfSchemaAt definitions path)
      (.error (.problem ⟨cause, some path, details⟩) : Except Failure α) :=
  onlyFails_error (.problem fault)

theorem onlyFails_by {α : Type} {cause : Cause} (details : Option String) :
    OnlyFails (Failure.By cause path)
      (.error (.problem ⟨cause, some path, details⟩) : Except Failure α) :=
  onlyFails_error ⟨details, rfl⟩

theorem onlyFails_nameOf (reference : Json) :
    OnlyFails (OfSchemaAt definitions path) (Definitions.nameOf reference (some path)) := by
  have unsupported : OnlyFails (OfSchemaAt definitions path)
      (Definitions.nameOf.unsupported reference (some path)) := onlyFails_problem _ rfl
  unfold Definitions.nameOf
  split
  · split
    · dsimp only
      split
      · exact onlyFails_problem _ rfl
      · exact onlyFails_ok _
    · exact unsupported
  · exact unsupported

/-- The names of a table can be put in order, as can those of any other value that holds names, but for
lists of other things than texts. -/
theorem onlyFails_available (held : ∃ flag, definitions.toJson.holds name = .ok flag) :
    OnlyFails (OfSchemaAt definitions path) (Failure.ofMisuse definitions.available) := by
  have unsorted {value : Json} {kind} (other : definitions = .other value kind) :
      OfSchemaAt definitions path (.misuse .unsortable) := .misuse (by decide) other
  unfold Definitions.available
  cases definitions with
  | table members => simp [Definitions.toJson, Json.entries, Failure.ofMisuse, Json.text?, OnlyFails]
  | other value kind =>
    cases value with
    | obj => cases kind
    | arr items =>
      change OnlyFails _ (Failure.ofMisuse (if _ then _ else _))
      split
      · exact onlyFails_ok _
      · exact onlyFails_error (unsorted rfl)
    | str text => simp [Definitions.toJson, Json.entries, Failure.ofMisuse, Json.text?, OnlyFails]
    | _ =>
      obtain ⟨_, held⟩ := held
      cases held

theorem onlyFails_schemaOf (definitions : Definitions) (name : String) :
    OnlyFails (OfSchemaAt definitions path) (definitions.schemaOf name (some path)) := by
  have looked : OnlyFails (OfSchemaAt definitions path)
      (Failure.ofMisuse (definitions.toJson.holds name)) := by
    cases definitions with
    | table members => exact onlyFails_ok _
    | other value kind =>
      refine onlyFails_ofMisuse fun misuse failed => .misuse ?_ rfl
      cases value <;> cases failed <;> decide
  unfold Definitions.schemaOf
  refine looked.bind_of_ok fun flag held => ?_
  have available : OnlyFails (OfSchemaAt definitions path) (Failure.ofMisuse definitions.available) :=
    onlyFails_available ⟨flag, Failure.ofMisuse_eq_ok.mp held⟩
  split
  next here =>
    subst here
    refine OnlyFails.bind ?_ fun target => ?_
    · cases definitions with
      | table members => exact onlyFails_entry rfl held
      | other value kind =>
        refine onlyFails_ofMisuse fun misuse failed => .misuse ?_ rfl
        cases value with
        | obj => cases kind
        | _ =>
          cases failed
          decide
    split
    · exact onlyFails_ok _
    · exact available.bind fun _ => onlyFails_problem _ rfl
  next => exact available.bind fun _ => onlyFails_problem _ rfl

/-- The budget suffices as long as there are names left in the table for it. -/
theorem onlyFails_follow {budget : Nat} {chain : List String}
    (followed : definitions.Followed chain) (enough : definitions.size ≤ chain.length + budget)
    (object : schema.isObject = true) :
    OnlyFails (OfSchemaAt definitions path) (definitions.follow (some path) budget chain schema) := by
  induction budget using Nat.strongRecOn generalizing chain schema with
  | ind budget ih =>
    unfold Definitions.follow
    refine (onlyFails_holds object _).bind_of_ok fun refers held => ?_
    split
    next here =>
      subst here
      refine (onlyFails_entry object held).bind fun reference => ?_
      refine (onlyFails_nameOf reference).bind fun name => ?_
      split
      next => exact onlyFails_problem _ rfl
      next unseen =>
        refine (onlyFails_schemaOf definitions name).bind_of_ok fun target found => ?_
        have fresh : name ∉ chain := by simpa using unseen
        have longer := followed.append fresh found
        have room := longer.length_le
        rw [List.length_append, List.length_singleton] at room
        cases budget with
        | zero => omega
        | succ budget =>
          refine ih budget (by omega) longer ?_ (Definitions.entry_of_schemaOf found).2
          rw [List.length_append, List.length_singleton]
          omega
    next => exact onlyFails_ok _

theorem onlyFails_resolve (definitions : Definitions) (object : schema.isObject = true) :
    OnlyFails (OfSchemaAt definitions path) (definitions.resolve schema (some path)) :=
  onlyFails_follow .nil (by simp) object

theorem onlyFails_ofKind (object : schema.isObject = true) (kind : Kind) (optional : Bool) :
    OnlyFails allowed (Inferred.ofKind kind optional schema) := by
  cases kind with
  | integer =>
    unfold Inferred.ofKind
    dsimp only
    split
    · exact onlyFails_ok _
    · exact (onlyFails_member? object _).bind fun _ => onlyFails_ok _
  | _ => exact onlyFails_ok _

theorem onlyFails_ofName (object : schema.isObject = true) {name : Json}
    (scalar : name.isContainer = false) (optional : Bool) :
    OnlyFails (OfTagAt path) (Inferred.ofName name optional schema (some path)) := by
  unfold Inferred.ofName
  split
  · exact onlyFails_error (.problem rfl)
  · split
    · exact onlyFails_ofKind object _ optional
    · exact onlyFails_error (.problem rfl)
  · rw [scalar]
    exact onlyFails_error (.problem rfl)

theorem onlyFails_ofKinds (object : schema.isObject = true) (kinds : List Kind) (optional : Bool) :
    OnlyFails allowed (Inferred.ofKinds kinds optional schema) := by
  unfold Inferred.ofKinds
  dsimp only
  split
  · exact onlyFails_ofKind object _ _
  · split
    · exact onlyFails_ok _
    · split
      · exact onlyFails_ok _
      · exact onlyFails_ok _

theorem onlyFails_kindOf (name : Json) :
    OnlyFails (fun failure => ∃ text, failure.By (.typeUnknown text) path)
      (Inferred.kindOf (some path) name) := by
  unfold Inferred.kindOf
  split
  · exact onlyFails_ok _
  · exact onlyFails_error ⟨_, _, rfl⟩

theorem onlyFails_ofNames (object : schema.isObject = true) (names : List Json) (optional : Bool) :
    OnlyFails (OfTagAt path) (Inferred.ofNames (.arr names) optional schema (some path)) := by
  refine OnlyFails.bind (onlyFails_ok names) fun entries => ?_
  refine OnlyFails.bind ?_ fun kinds => onlyFails_ofKinds object kinds _
  refine (onlyFails_mapM onlyFails_kindOf entries).mono ?_
  rintro _ ⟨text, details, rfl⟩
  exact .problem rfl

theorem onlyFails_literalKind (literal : Json) :
    OnlyFails (OfTagAt path) (Inferred.literalKind (some path) literal) := by
  unfold Inferred.literalKind
  split
  · exact onlyFails_ok _
  · exact onlyFails_error (.problem rfl)

theorem onlyFails_literalKinds (enumeration : Json) :
    OnlyFails (OfTagAt path) (Inferred.literalKinds enumeration (some path)) := by
  unfold Inferred.literalKinds
  split
  · exact (onlyFails_mapM onlyFails_literalKind _).bind fun _ => onlyFails_ok _
  · exact onlyFails_error (.problem rfl)

theorem onlyFails_ofSchema (object : schema.isObject = true) (optional : Bool) :
    OnlyFails (OfTagAt path) (Inferred.ofSchema schema optional (some path)) := by
  unfold Inferred.ofSchema
  refine (onlyFails_holds object _).bind_of_ok fun enumerated held => ?_
  split
  next here =>
    subst here
    refine (onlyFails_entry object held).bind fun enumeration => ?_
    exact (onlyFails_literalKinds enumeration).bind fun kinds => onlyFails_ofKinds object _ _
  next =>
    refine (onlyFails_member? object _).bind fun name => ?_
    split
    · exact onlyFails_ofNames object _ _
    · exact onlyFails_ofName object rfl _
    · exact onlyFails_ofName object rfl _
    · exact onlyFails_error (.problem rfl)

theorem onlyFails_declaresProperties (object : schema.isObject = true) :
    OnlyFails (Failure.By .propertiesNotObject path) (declaresProperties schema (some path)) := by
  unfold declaresProperties
  refine (onlyFails_member? object _).bind fun declared => ?_
  split
  · exact onlyFails_ok _
  · exact onlyFails_ok _
  · exact onlyFails_by _

theorem onlyFails_override? (settings : Settings) (object : schema.isObject = true) :
    OnlyFails allowed (settings.override? schema) := by
  unfold Settings.override?
  refine (onlyFails_member? object _).bind fun found => ?_
  split
  · exact onlyFails_ok _
  · exact onlyFails_ok _

theorem onlyFails_givenBase? (settings : Settings) (object : schema.isObject = true)
    (reference : Option String) :
    OnlyFails allowed (settings.givenBase? schema reference) :=
  (onlyFails_override? settings object).bind fun _ => onlyFails_ok _

end Functions

namespace Resolver

variable {resolver : Resolver} {definitions : Definitions} {finding : Finding}
  {parent key path : String} {position : Option Int} {raw entry : Json} {site : Site}
  {allowed : Failure → Prop}

theorem onlyFails_findingOf {reference : Reference} (object : reference.schema.isObject = true) :
    OnlyFails (OfSchemaAt definitions path) (findingOf reference path) := by
  unfold findingOf
  refine OnlyFails.bind ?_ fun inferred => OnlyFails.bind ?_ fun _ => onlyFails_ok _
  · exact (onlyFails_ofSchema object _).mono fun _ fault => fault.ofSchemaAt
  unfold hasModel
  split
  · exact (onlyFails_declaresProperties object).mono fun _ known => known.ofSchemaAt rfl
  · exact onlyFails_ok _

theorem onlyFails_inspect (object : raw.isObject = true) :
    OnlyFails (OfSchemaAt resolver.definitions path) (resolver.inspect raw path).outcome := by
  unfold inspect
  refine onlyFails_script_bind_of_ok (onlyFails_resolve _ object) fun reference resolved => ?_
  refine onlyFails_script_bind (onlyFails_ok _) fun _ => ?_
  exact onlyFails_findingOf (Definitions.isObject_of_resolve object resolved)

theorem isObject_of_inspect (object : raw.isObject = true)
    (found : (resolver.inspect raw path).outcome = .ok finding) :
    finding.reference.schema.isObject = true :=
  Definitions.isObject_of_resolve object (inspect_ok.mp found).1

theorem onlyFails_ownModel (object : finding.reference.schema.isObject = true) :
    OnlyFails allowed (resolver.ownModel finding parent key position path).outcome := by
  unfold ownModel
  split
  · refine onlyFails_script_bind ?_ fun base => ?_
    · exact (onlyFails_givenBase? _ object _).bind fun _ => onlyFails_ok _
    · exact onlyFails_script_bind (onlyFails_ok _) fun _ => onlyFails_ok _
  · exact onlyFails_ok _

theorem onlyFails_uniform (object : raw.isObject = true) :
    OnlyFails (OfSchemaAt resolver.definitions path) (resolver.uniform parent key path raw).outcome := by
  refine onlyFails_script_bind_of_ok (onlyFails_inspect object) fun finding found => ?_
  refine onlyFails_script_bind ?_ fun _ => onlyFails_ok _
  exact onlyFails_ownModel (isObject_of_inspect object found)

theorem onlyFails_shorthand (names : List Json) :
    OnlyFails (fun failure => ∃ text, failure.By (.typeUnknown text) path) (shorthand path names) := by
  unfold shorthand
  refine (onlyFails_mapM onlyFails_kindOf names).bind fun kinds => ?_
  dsimp only
  split
  · exact onlyFails_ok _
  · refine (onlyFails_mapM ?_ _).bind fun _ => onlyFails_ok _
    exact fun kind => onlyFails_ofKind rfl kind _

theorem onlyFails_alternative (index : Nat) (entry : Json) :
    OnlyFails (OfSchemaAt resolver.definitions (path ++ "/" ++ toString index))
      (resolver.alternative parent key path index entry).outcome := by
  unfold alternative
  dsimp only
  split
  · split
    · exact onlyFails_ok _
    · refine onlyFails_script_bind_of_ok (onlyFails_inspect rfl) fun finding found => ?_
      refine onlyFails_script_bind ?_ fun _ => onlyFails_ok _
      exact onlyFails_ownModel (isObject_of_inspect rfl found)
  · exact onlyFails_problem _ rfl

theorem onlyFails_alternatives (index : Nat) (entries : List Json) :
    OnlyFails (OfSchema resolver.definitions)
      (resolver.alternatives parent key path index entries).outcome := by
  induction entries generalizing index with
  | nil => exact onlyFails_ok _
  | cons entry rest ih =>
    unfold alternatives
    refine onlyFails_script_bind (onlyFails_alternative index entry).ofSchema fun first => ?_
    exact onlyFails_script_bind (ih (index + 1)) fun _ => onlyFails_ok _

theorem onlyFails_elementsOf (items : Json) :
    OnlyFails (OfSchema resolver.definitions)
      (resolver.elementsOf parent key path items).outcome := by
  unfold elementsOf
  split
  · exact onlyFails_ok _
  · split
    · exact onlyFails_alternatives 0 _
    · exact (onlyFails_problem _ rfl).ofSchema
    · exact (onlyFails_uniform rfl).ofSchema
  · split
    · exact (onlyFails_shorthand _).mono fun _ ⟨_, known⟩ => (known.ofSchemaAt rfl).ofSchema
    · exact onlyFails_alternatives 0 _
  · exact (onlyFails_problem _ rfl).ofSchema

theorem onlyFails_elements {list : Json} (object : list.isObject = true) :
    OnlyFails (OfSchema resolver.definitions) (resolver.elements parent key path list).outcome := by
  unfold elements
  exact onlyFails_script_bind (onlyFails_member? object _) fun _ => onlyFails_elementsOf _

theorem onlyFails_held (object : finding.reference.schema.isObject = true) :
    OnlyFails (OfSchema resolver.definitions) (resolver.held finding parent key path).outcome := by
  unfold held
  split
  · exact onlyFails_elements object
  · exact onlyFails_ok _

theorem onlyFails_described {isRequired : Bool} {modelName : Option String} {elements : Elements}
    (object : entry.isObject = true) (behind : finding.reference.schema.isObject = true)
    (nameless : resolver.settings.propertyName key entry = .ok "" → allowed (.nameless .property)) :
    OnlyFails allowed
      (described resolver.settings key entry isRequired finding modelName elements) := by
  unfold described
  refine OnlyFails.bind_of_ok ?_ fun name known => OnlyFails.bind ?_ fun description => ?_
  · exact (onlyFails_override? resolver.settings object).bind fun _ => onlyFails_ok _
  · obtain ⟨members, rfl⟩ := Json.eq_obj object
    obtain ⟨others, same⟩ := Json.eq_obj behind
    rw [same]
    exact onlyFails_ok _
  · split
    next => exact onlyFails_ok _
    next empty => exact onlyFails_error (nameless (known.trans (congrArg _ (not_not.mp empty))))

theorem onlyFails_property (site : Site) (required : List Json) (key : String) (entry : Json) :
    OnlyFails (OfProperty resolver key entry)
      (resolver.property site required key entry).outcome := by
  unfold property
  dsimp only
  split
  next object =>
    refine onlyFails_script_bind_of_ok ((onlyFails_inspect object).ofSchema.mono fun _ => .schema) ?_
    intro finding found
    have behind := isObject_of_inspect object found
    refine onlyFails_script_bind (onlyFails_ownModel behind) fun _ => ?_
    refine onlyFails_script_bind ((onlyFails_held behind).mono fun _ => .schema) fun elements => ?_
    exact onlyFails_described object behind .nameless
  next => exact (onlyFails_problem _ rfl).ofSchema.mono fun _ => .schema

theorem onlyFails_requiredOf (object : site.schema.isObject = true) :
    OnlyFails (Failure.By .requiredNotList site.path) (requiredOf site) := by
  unfold requiredOf
  refine (onlyFails_member? object _).bind fun required => ?_
  split
  · exact onlyFails_ok _
  · split
    · exact onlyFails_ok _
    · exact onlyFails_by _

theorem onlyFails_ofProperties (nameless : resolver.nameOf site = "" → allowed (.nameless .model))
    (properties : List Property) :
    OnlyFails allowed (Model.ofProperties (resolver.nameOf site) properties) := by
  unfold Model.ofProperties
  split
  next => exact onlyFails_ok _
  next empty => exact onlyFails_error (nameless (not_not.mp empty))

theorem isObject_of_propertiesOf {schema : Json} {entries : List (String × Json)}
    (declared : propertiesOf schema = .ok entries) : schema.isObject = true := by
  obtain ⟨members, rfl, -⟩ := Json.member?_eq_ok.mp (propertiesOf_ok.mp declared)
  rfl

theorem onlyFails_model {entries : List (String × Json)}
    (declared : propertiesOf site.schema = .ok entries) :
    OnlyFails (OfModel resolver site) (resolver.model site).outcome := by
  have object := isObject_of_propertiesOf declared
  unfold model
  refine onlyFails_script_bind ?_ fun required => ?_
  · exact (onlyFails_requiredOf object).mono fun _ known => .schema (known.ofSchemaAt rfl).ofSchema
  rw [declared]
  refine onlyFails_script_bind_of_ok (onlyFails_ok entries) fun _ same => ?_
  cases same
  refine onlyFails_script_bind (onlyFails_script_mapM fun entry inside => ?_) fun properties =>
    onlyFails_ofProperties .nameless properties
  refine (onlyFails_property site required entry.1 entry.2).mono fun _ => ?_
  exact .property ⟨entries, declared, inside⟩

theorem onlyFails_root (object : resolver.document.isObject = true) :
    OnlyFails (OfSchema resolver.definitions) resolver.root.outcome := by
  unfold root
  refine onlyFails_script_bind_of_ok (onlyFails_inspect object).ofSchema fun finding found => ?_
  have behind := isObject_of_inspect object found
  dsimp only
  refine onlyFails_script_bind ?_ fun base => ?_
  · exact (onlyFails_givenBase? _ behind _).bind fun _ => onlyFails_ok _
  · split
    · exact onlyFails_ok _
    · split
      · rw [Script.discard_eq]
        exact onlyFails_script_bind (onlyFails_elements behind) fun _ => onlyFails_ok _
      · exact onlyFails_ok _

end Resolver

/-! Values that are no objects are misused wherever a schema is expected. -/

section Bare

variable {schema : Json} {place : Option String}

theorem Json.lookups_of_bare (bare : schema.isObject = false) (name : String) :
    schema.entry name = .error .unindexable ∧ schema.member? name = .error .memberless := by
  cases schema with
  | obj => cases bare
  | _ => exact ⟨rfl, rfl⟩

theorem resolve_of_bare (definitions : Definitions) (bare : schema.isObject = false) :
    definitions.resolve schema place = .ok ⟨schema, []⟩ ∨
      ∃ misuse, definitions.resolve schema place = .error (.misuse misuse) := by
  unfold Definitions.resolve Definitions.follow
  rw [(Json.lookups_of_bare bare "$ref").1]
  cases schema.holds "$ref" with
  | error misuse => exact .inr ⟨misuse, rfl⟩
  | ok refers =>
    cases refers with
    | true => exact .inr ⟨.unindexable, rfl⟩
    | false => exact .inl rfl

theorem ofSchema_of_bare (bare : schema.isObject = false) (optional : Bool) :
    ∃ misuse, Inferred.ofSchema schema optional place = .error (.misuse misuse) := by
  unfold Inferred.ofSchema
  rw [(Json.lookups_of_bare bare "enum").1, (Json.lookups_of_bare bare "type").2]
  cases schema.holds "enum" with
  | error misuse => exact ⟨misuse, rfl⟩
  | ok enumerated =>
    cases enumerated with
    | true => exact ⟨.unindexable, rfl⟩
    | false => exact ⟨.memberless, rfl⟩

end Bare

namespace Resolver

variable {resolver : Resolver} {path : String}

theorem inspect_of_bare {raw : Json} (bare : raw.isObject = false) :
    ∃ misuse, (resolver.inspect raw path).outcome = .error (.misuse misuse) := by
  unfold inspect
  rcases resolve_of_bare resolver.definitions bare with same | ⟨misuse, failed⟩
  · obtain ⟨misuse, failed⟩ := ofSchema_of_bare bare false
    refine ⟨misuse, ?_⟩
    rw [same, Script.bind_of_ok (by rfl), Script.bind_of_ok (by rfl)]
    change findingOf ⟨raw, []⟩ path = _
    rw [findingOf, failed]
    rfl
  · rw [failed]
    exact ⟨misuse, rfl⟩

theorem onlyFaults_model (site : Site) : OnlyFails OfWalk (resolver.model site).outcome := by
  have needed : OnlyFails OfWalk (requiredOf site) := by
    by_cases object : site.schema.isObject = true
    · refine (onlyFails_requiredOf object).mono ?_
      rintro _ ⟨details, rfl⟩
      exact .problem site.path rfl
    · rw [Bool.not_eq_true] at object
      rw [requiredOf, (Json.lookups_of_bare object "required").2]
      exact onlyFails_error (.misuse .memberless)
  unfold model
  refine onlyFails_script_bind needed fun required => ?_
  refine onlyFails_script_bind (onlyFails_ofMisuse fun misuse _ => .misuse misuse) fun entries => ?_
  refine onlyFails_script_bind (onlyFails_script_mapM fun entry _ => ?_) fun properties => ?_
  · exact (onlyFails_property site required entry.1 entry.2).mono fun _ fault => fault.ofWalk
  · exact onlyFails_ofProperties (fun _ => .nameless .model) properties

theorem onlyFaults_root : OnlyFails OfWalk resolver.root.outcome := by
  by_cases object : resolver.document.isObject = true
  · exact (onlyFails_root object).mono fun _ fault => fault.ofWalk
  rw [Bool.not_eq_true] at object
  obtain ⟨misuse, failed⟩ := inspect_of_bare object
  rw [root, Script.bind_of_error failed]
  exact onlyFails_error (.misuse misuse)

end Resolver

end SchemaCatalog
