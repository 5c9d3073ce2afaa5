import SchemaCatalog.Proofs.Contents

/-! Properties and the schemas they stand for. What a property says is put together from the entry of its
key, the schema behind that, the keys that are required, and what a list may hold. Main statement: all
properties of all models that a resolution comes to say just that.
-/
namespace SchemaCatalog

namespace Json

def textOf? (name : String) (value : Json) : Option String :=
  match value.member? name with
  | .ok (some (.str text)) => some text
  | _ => none

/-- A key is among those that a schema requires. -/
def Requires (schema : Json) (key : String) : Prop :=
  ∃ names, schema.member? "required" = .ok (some (.arr names)) ∧ .str key ∈ names

/-- What stands for null in a list: its name, or a schema of that type which is no reference. -/
inductive StandsForNull : Json → Prop
  | name : StandsForNull (.str "null")
  | schema {members} (plain : ∀ pointer, ("$ref", pointer) ∉ members)
      (typed : members.lookup "type" = some (.str "null")) : StandsForNull (.obj members)

/-- The entries of a list of items, which may also stand under `anyOf`. -/
inductive Lists : Json → Json → Prop
  | items {entries entry} (inside : entry ∈ entries) : Lists (.arr entries) entry
  | alternatives {members entries entry} (several : members.lookup "anyOf" = some (.arr entries))
      (inside : entry ∈ entries) : Lists (.obj members) entry

/-- A list that null is listed for. -/
def AdmitsNull (list : Json) : Prop :=
  ∃ items entry, list.member? "items" = .ok (some items) ∧ items.Lists entry ∧ entry.StandsForNull

end Json

/-- A property says of the entry of a key in a schema what is to be said, where the entry leads to a
schema behind it, for which something is inferred. -/
structure Property.Faithful (settings : Settings) (schema : Json) (key : String) (entry behind : Json)
    (inferred : Inferred) (property : Property) : Prop where
  name : property.name =
    ((entry.textOf? settings.overrideKey).filter (· ≠ "")).getD (Casing.camelize key)
  tag : property.tag = inferred.tag
  description : property.description = (entry.textOf? "description" <|> behind.textOf? "description")
  optional : property.optional = false ↔
    schema.Requires key ∧ inferred.optional = false ∧ ¬ (inferred.tag = .array ∧ behind.AdmitsNull)

namespace Json

variable {members : List (String × Json)}

theorem textOf?_obj (name : String) (members : List (String × Json)) :
    (obj members).textOf? name = (members.lookup name).bind text? := by
  unfold textOf?
  rw [member?]
  rcases members.lookup name with _ | value
  · rfl
  · cases value <;> rfl

theorem standsForNull_str {name : String} : (str name).StandsForNull ↔ name = "null" := by
  constructor
  · rintro ⟨⟩
    rfl
  · rintro rfl
    exact .name

theorem standsForNull_obj : (obj members).StandsForNull ↔ Resolver.isNull members = true := by
  have referring : (!members.any (·.1 == "$ref")) = true ↔ ∀ pointer, ("$ref", pointer) ∉ members := by
    simp only [Bool.not_eq_true', List.any_eq_false, beq_iff_eq]
    constructor
    · exact fun none pointer inside => none _ inside rfl
    · rintro none ⟨name, value⟩ inside rfl
      exact none value inside
  constructor
  · rintro (_ | ⟨plain, typed⟩)
    rw [Resolver.isNull, referring.mpr plain, typed]
    rfl
  · intro null
    have typed := member?_eq_ok.mp (Resolver.type_of_isNull null)
    obtain ⟨_, ⟨⟩, typed⟩ := typed
    exact .schema (referring.mp (Bool.and_eq_true_iff.mp null).1) typed

theorem standsForNull_spelledOut {entry : Json} :
    (Resolver.spelledOut entry).StandsForNull ↔ entry.StandsForNull := by
  cases entry with
  | str name =>
    change (obj [("type", str name)]).StandsForNull ↔ _
    rw [standsForNull_obj, standsForNull_str]
    simp [Resolver.isNull, text?]
  | _ => rfl

end Json

namespace Resolver

variable {resolver : Resolver} {site : Site} {key parent path : String} {entry : Json}
  {elements : Elements} {finding : Finding}

theorem override?_ok {settings : Settings} {schema : Json} {own : Option String}
    (known : settings.override? schema = .ok own) :
    own = (schema.textOf? settings.overrideKey).filter (· ≠ "") := by
  obtain ⟨found, looked, known⟩ := Failure.bind_eq_ok.mp known
  obtain ⟨members, rfl, rfl⟩ := Json.member?_eq_ok.mp (Failure.ofMisuse_eq_ok.mp looked)
  rw [Json.textOf?_obj]
  generalize members.lookup settings.overrideKey = found at known
  rcases found with _ | value
  · cases known
    rfl
  · cases value with
    | str text =>
      have known : Except.ok (if text.isEmpty then none else some text) = Except.ok own := known
      rw [← Except.ok.inj known, Option.bind_some, Json.text?, Option.filter_some]
      by_cases empty : text = "" <;> simp [empty]
    | _ =>
      cases known
      rfl

theorem descriptionOf_ok {schema : Json} {description : Option String}
    (known : descriptionOf entry schema = .ok description) :
    description = (entry.textOf? "description" <|> schema.textOf? "description") := by
  obtain ⟨own, looked, known⟩ := Failure.bind_eq_ok.mp known
  obtain ⟨inherited, looked', known⟩ := Failure.bind_eq_ok.mp known
  obtain ⟨members, rfl, rfl⟩ := Json.member?_eq_ok.mp looked
  obtain ⟨others, rfl, rfl⟩ := Json.member?_eq_ok.mp looked'
  cases known
  rw [Json.textOf?_obj, Json.textOf?_obj]

theorem requires_of_requiredOf {required : List Json} (known : requiredOf site = .ok required) :
    required.any (·.text? == some key) = true ↔ site.schema.Requires key := by
  have listed (names : List Json) :
      names.any (·.text? == some key) = true ↔ Json.str key ∈ names := by
    rw [List.any_eq_true]
    constructor
    · rintro ⟨name, inside, same⟩
      cases name with
      | str text =>
        cases beq_iff_eq.mp same
        exact inside
      | _ => cases same
    · exact fun inside => ⟨_, inside, beq_self_eq_true _⟩
  obtain ⟨found, looked, given⟩ := requiredOf_ok.mp known
  rw [listed]
  unfold Json.Requires
  rw [looked]
  constructor
  · intro inside
    rcases given with names | ⟨-, rfl⟩
    · cases found with
      | none => cases names
      | some value =>
        cases names
        exact ⟨required, rfl, inside⟩
    · cases inside
  · rintro ⟨names, same, inside⟩
    cases same
    rcases given with same | ⟨empty, -⟩
    · cases same
      exact inside
    · rw [List.isEmpty_iff.mp empty] at inside
      cases inside

theorem nullable_of_shorthand {names : List Json} (ok : shorthand path names = .ok elements) :
    elements.nullable = true ↔ ∃ entry ∈ names, entry.StandsForNull := by
  obtain ⟨kinds, read, ok⟩ := Failure.bind_eq_ok.mp ok
  have read := (Failure.mapM_eq_ok.mp read).imp fun _ _ known => str_of_kindOf known
  have nullable : elements.nullable = kinds.contains .null := by
    dsimp only at ok
    split at ok
    next =>
      cases ok
      rfl
    next =>
      obtain ⟨inferred, -, ok⟩ := Failure.bind_eq_ok.mp ok
      cases ok
      rfl
  rw [nullable, List.contains_iff_mem]
  constructor
  · intro inside
    obtain ⟨entry, listed, rfl⟩ := forall₂_right read inside
    exact ⟨_, listed, .name⟩
  · rintro ⟨entry, listed, null⟩
    obtain ⟨kind, inside, rfl⟩ := forall₂_left read listed
    have same : kind = .null := by
      have named := Json.standsForNull_str.mp null
      revert named
      cases kind <;> decide
    exact same ▸ inside

theorem nullable_of_alternative {index : Nat}
    (ok : (resolver.alternative parent key path index entry).outcome = .ok elements) :
    elements.nullable = true ↔ entry.StandsForNull := by
  rw [← Json.standsForNull_spelledOut]
  unfold alternative at ok
  split at ok
  next members spelled =>
    rw [spelled, Json.standsForNull_obj]
    split at ok
    next null =>
      cases ok
      exact iff_of_true rfl null
    next other =>
      obtain ⟨_, -, ok⟩ := Script.outcome_bind.mp ok
      obtain ⟨_, -, ok⟩ := Script.outcome_bind.mp ok
      cases ok
      exact iff_of_false Bool.false_ne_true other
  next => cases ok

theorem nullable_of_alternatives {first : Nat} {entries : List Json}
    (ok : (resolver.alternatives parent key path first entries).outcome = .ok elements) :
    elements.nullable = true ↔ ∃ entry ∈ entries, entry.StandsForNull := by
  induction entries generalizing first elements with
  | nil =>
    cases ok
    simp
  | cons entry entries ih =>
    rw [alternatives] at ok
    obtain ⟨one, here, ok⟩ := Script.outcome_bind.mp ok
    obtain ⟨others, later, ok⟩ := Script.outcome_bind.mp ok
    cases ok
    rw [Elements.append, Bool.or_eq_true, nullable_of_alternative here, ih later]
    simp

theorem nullable_of_elementsOf {items : Json}
    (ok : (resolver.elementsOf parent key path items).outcome = .ok elements) :
    elements.nullable = true ↔ ∃ entry, items.Lists entry ∧ entry.StandsForNull := by
  cases items with
  | obj members =>
    simp only [elementsOf] at ok
    split at ok
    next entries several =>
      rw [nullable_of_alternatives ok]
      constructor
      · rintro ⟨entry, inside, null⟩
        exact ⟨entry, .alternatives several inside, null⟩
      · rintro ⟨entry, listed, null⟩
        cases listed with
        | alternatives several' inside =>
          cases several.symm.trans several'
          exact ⟨entry, inside, null⟩
    next => cases ok
    next single =>
      obtain ⟨_, -, ok⟩ := Script.outcome_bind.mp ok
      obtain ⟨_, -, ok⟩ := Script.outcome_bind.mp ok
      cases ok
      refine iff_of_false Bool.false_ne_true ?_
      rintro ⟨entry, listed, -⟩
      cases listed with
      | alternatives several _ => cases single.symm.trans several
  | arr entries =>
    have listed : (∃ entry, (Json.arr entries).Lists entry ∧ entry.StandsForNull) ↔
        ∃ entry ∈ entries, entry.StandsForNull := by
      constructor
      · rintro ⟨entry, ⟨inside⟩, null⟩
        exact ⟨entry, inside, null⟩
      · rintro ⟨entry, inside, null⟩
        exact ⟨entry, .items inside, null⟩
    rw [listed]
    simp only [elementsOf] at ok
    split at ok
    next => exact nullable_of_shorthand ok
    next => exact nullable_of_alternatives ok
  | null =>
    cases ok
    refine iff_of_false Bool.false_ne_true ?_
    rintro ⟨entry, listed, -⟩
    cases listed
  | _ => cases ok

theorem nullable_of_held (ok : (resolver.held finding parent key path).outcome = .ok elements) :
    elements.nullable = true ↔
      finding.inferred.tag = .array ∧ finding.reference.schema.AdmitsNull := by
  unfold held at ok
  split at ok
  next list =>
    obtain ⟨items, looked, ok⟩ := Script.outcome_bind.mp ok
    have looked := Failure.ofMisuse_eq_ok.mp looked
    rw [nullable_of_elementsOf ok]
    unfold Json.AdmitsNull
    rw [looked]
    constructor
    · rintro ⟨entry, listed, null⟩
      cases items with
      | none => cases listed
      | some items => exact ⟨list, items, entry, rfl, listed, null⟩
    · rintro ⟨-, _, entry, ⟨⟩, listed, null⟩
      exact ⟨entry, listed, null⟩
  next other =>
    cases ok
    exact iff_of_false Bool.false_ne_true fun admits => other admits.1

theorem faithful_of_property {required : List Json} {property : Property}
    (needed : requiredOf site = .ok required)
    (made : (resolver.property site required key entry).outcome = .ok property) :
    ∃ place reference inferred, resolver.definitions.resolve entry place = .ok reference ∧
      Inferred.ofSchema reference.schema false place = .ok inferred ∧
      property.Faithful resolver.settings site.schema key entry reference.schema inferred := by
  obtain ⟨-, finding, elements, found, -, held, described⟩ := property_ok.mp made
  obtain ⟨resolved, known⟩ := inspect_ok.mp found
  obtain ⟨-, tagged, -⟩ := findingOf_ok.mp known
  obtain ⟨named, description, tag, -, optional, -, -⟩ := described_ok.mp described
  refine ⟨_, finding.reference, finding.inferred, resolved, tagged, ?_, tag,
    descriptionOf_ok description, ?_⟩
  · obtain ⟨own, known, equal⟩ := Failure.bind_eq_ok.mp named
    rw [← override?_ok known]
    exact (Except.ok.inj equal).symm
  · rw [optional, ← requires_of_requiredOf needed, ← nullable_of_held held]
    simp [and_comm, and_assoc]

/-- Every model of a resolution was built for an object schema with declared properties that was reached,
and has one property for each of these, in order, that says what is to be said of it. -/
theorem properties_faithful {models : List (String × Model)} {final : Progress}
    (ok : resolver.resolve.run {} = (.ok models, final)) :
    ∀ key model, (key, model) ∈ models → ∃ site entries, final.Reached site ∧
      site.schema.IsModelled ∧ resolver.nameOf site = key ∧ propertiesOf site.schema = .ok entries ∧
      List.Forall₂ (fun (entry : String × Json) property => ∃ place reference inferred,
        resolver.definitions.resolve entry.2 place = .ok reference ∧
        Inferred.ofSchema reference.schema false place = .ok inferred ∧
        property.Faithful resolver.settings site.schema entry.1 entry.2 reference.schema inferred)
        entries model.properties := by
  intro key model stored
  obtain ⟨site, ⟨calls, event⟩, -, named, made⟩ := site_of_resolve ok stored
  obtain ⟨located, -⟩ :=
    reached_of_resolve ok resolver.stable_located located_of_start site calls event
  obtain ⟨required, entries, needed, declared, built, -⟩ := model_ok.mp made
  refine ⟨site, entries, ⟨calls, event⟩, located.1, named, declared, built.imp ?_⟩
  exact fun entry property known => faithful_of_property needed known

/-- A schema with a list that may hold null and a reference to a described definition, both required. -/
def recordDocument : Json := .obj [
  ("type", .str "object"),
  ("required", .arr [.str "tags", .str "sold_by"]),
  ("properties", .obj [
    ("tags", .obj [("type", .str "array"), ("items", .arr [.str "string", .str "null"])]),
    ("sold_by", .obj [("$ref", .str "#/definitions/shop")]),
    ("x", .obj [("type", .str "number"), ("nameOverride", .str "East of it")])]),
  ("definitions", .obj [
    ("shop", .obj [
      ("type", .str "object"),
      ("description", .str "Who sold it"),
      ("properties", .obj [("name", .obj [("type", .str "string")])])])])]

theorem properties_faithful_record : ∃ models final model,
    (resolve ⟨recordDocument, {}⟩).run {} = (.ok models, final) ∧ ("Model", model) ∈ models ∧
    model.properties.map (fun property => (property.name, property.tag)) =
      [("tags", .array), ("soldBy", .object), ("East of it", .number)] ∧
    model.properties.map (fun property => (property.optional, property.description)) =
      [(true, none), (false, some "Who sold it"), (true, none)] ∧
    ∃ site entries, final.Reached site ∧ site.schema.IsModelled ∧
      nameOf ⟨recordDocument, {}⟩ site = "Model" ∧ propertiesOf site.schema = .ok entries ∧
      List.Forall₂ (fun (entry : String × Json) property => ∃ place reference inferred,
        (definitions ⟨recordDocument, {}⟩).resolve entry.2 place = .ok reference ∧
        Inferred.ofSchema reference.schema false place = .ok inferred ∧
        property.Faithful {} site.schema entry.1 entry.2 reference.schema inferred)
        entries model.properties := by
  have told : ((resolve ⟨recordDocument, {}⟩).run {}).1.toOption.any (fun models =>
      models.any fun (key, model) => key == "Model" &&
        model.properties.map (fun property => (property.name, property.tag)) ==
          [("tags", .array), ("soldBy", .object), ("East of it", .number)] &&
        model.properties.map (fun property => (property.optional, property.description)) ==
          [(true, none), (false, some "Who sold it"), (true, none)]) = true := by
    decide +kernel
  rcases ran : (resolve ⟨recordDocument, {}⟩).run {} with ⟨failure | models, final⟩
  · rw [ran] at told
    cases told
  · rw [ran] at told
    obtain ⟨⟨key, model⟩, stored, told⟩ := List.any_eq_true.mp told
    simp only [Bool.and_eq_true, beq_iff_eq] at told
    obtain ⟨⟨rfl, tagged⟩, described⟩ := told
    exact ⟨models, final, model, rfl, stored, tagged, described,
      properties_faithful ran "Model" model stored⟩

end Resolver

end SchemaCatalog
