import SchemaCatalog.Proofs.Annotations
import SchemaCatalog.Proofs.Rebuild

/-! Descriptions and what is made of them. A resolver does the same with a document as with what is left of
it without the descriptions, and every property is the same but for its own. Main statement: documents
that differ in descriptions only have the same models but for the descriptions of properties, or fail
alike.
-/
namespace SchemaCatalog

namespace Resolver

theorem isNull_undescribed (members : List (String × Json)) :
    isNull (Json.membersUndescribed .schema members) = isNull members := by
  unfold isNull
  rw [Json.any_eq_lookup, Json.any_eq_lookup,
    Json.lookup_undescribed (Json.Role.isDescription_of_ne (by decide) .schema),
    Json.lookup_undescribed (Json.Role.isDescription_of_ne (by decide) .schema), Option.isSome_map]
  cases members.lookup "type" with
  | none => rfl
  | some type => rw [Option.map_some, Option.bind_some, Option.bind_some, Json.text?_undescribed]

theorem spelledOut_undescribed (entry : Json) :
    spelledOut (entry.undescribed .schema) = (spelledOut entry).undescribed .schema := by
  cases entry <;> rfl

theorem propertiesOf_undescribed (schema : Json) :
    Accord (fun entries bare => bare = Json.membersUndescribed .table entries)
      (Failure.ofMisuse (propertiesOf schema))
      (Failure.ofMisuse (propertiesOf (schema.undescribed .schema))) := by
  cases schema with
  | obj members =>
    unfold propertiesOf
    rw [Json.undescribed_obj, Json.entry, Json.entry,
      Json.lookup_undescribed (Json.Role.isDescription_of_ne (by decide) .schema)]
    rcases members.lookup "properties" with _ | value
    · exact .error _
    · cases value with
      | obj entries => exact .ok rfl
      | _ => exact .error _
  | _ => exact .error _

theorem descriptionOf_undescribed (entry schema : Json) :
    Accord (fun _ _ => True) (Failure.ofMisuse (descriptionOf entry schema))
      (Failure.ofMisuse (descriptionOf (entry.undescribed .schema) (schema.undescribed .schema))) := by
  cases entry with
  | obj members =>
    cases schema with
    | obj others => exact .ok trivial
    | _ => exact .error _
  | _ => exact .error _

theorem requiredOf_undescribed (site : Site) : requiredOf site.undescribed = requiredOf site := by
  unfold requiredOf
  dsimp only [Site.undescribed]
  rw [Json.member?_data (by decide) (by decide)]

theorem definitions_ofJson_undescribed (value : Json) :
    Definitions.ofJson (value.undescribed .table) = (Definitions.ofJson value).undescribed := by
  cases value with
  | obj members =>
    cases members with
    | nil => rfl
    | cons member members => rfl
  | arr items =>
    rw [Json.undescribed_arr]
    have same : items.map (Json.undescribed .data) = items := by
      rw [← Json.itemsUndescribed_eq, Json.itemsUndescribed_data]
    change Definitions.ofJson (.arr (items.map (Json.undescribed .data))) = _
    rw [same]
    unfold Definitions.ofJson
    split <;> rfl
  | _ =>
    rw [Json.undescribed]
    · unfold Definitions.ofJson
      split <;> rfl
    · intro items same
      cases same
    · intro members same
      cases same

theorem ofProperties_undescribed (name : String) {properties others : List Property}
    (same : others.map Property.undescribed = properties.map Property.undescribed) :
    Accord (fun one two => two.undescribed = one.undescribed) (Model.ofProperties name properties)
      (Model.ofProperties name others) := by
  have depends (list : List Property) : list.flatMap Property.dependencies =
      (list.map Property.undescribed).flatMap Property.dependencies := by
    rw [List.flatMap_map]
    rfl
  unfold Model.ofProperties
  split
  next named =>
    refine .ok ?_
    rw [depends properties, ← same, ← depends]
    simp only [Model.undescribed, same]
  next => exact .error _

def undescribed (resolver : Resolver) : Resolver :=
  { resolver with document := resolver.document.undescribed .schema }

theorem definitions_undescribed (resolver : Resolver) :
    resolver.undescribed.definitions = resolver.definitions.undescribed := by
  obtain ⟨document, settings⟩ := resolver
  cases document with
  | obj members =>
    unfold definitions undescribed
    dsimp only
    rw [Json.undescribed_obj]
    dsimp only
    rw [Json.lookup_undescribed (Json.Role.isDescription_of_ne (by decide) .schema),
      ← definitions_ofJson_undescribed]
    cases members.lookup "definitions" <;> rfl
  | _ => rfl

theorem findingOf_undescribed (reference : Reference) (path : String) :
    Accord (fun finding bare => bare = finding.undescribed) (findingOf reference path)
      (findingOf reference.undescribed path) := by
  unfold findingOf hasModel
  dsimp only [Reference.undescribed]
  rw [Inferred.ofSchema_undescribed]
  refine .bind_same _ fun inferred => ?_
  rw [declaresProperties_undescribed]
  refine .bind_same _ fun hasModel => ?_
  exact .ok rfl

/-- A script for a schema and one for what is left of it without the descriptions. -/
def Undescribed {α β : Type} (fit : α → β → Prop) (first : Script α) (second : Script β) : Prop :=
  first.Beside (fun site bare => bare = site.undescribed) id fit second

section

variable (resolver : Resolver) {path parent key : String}

theorem inspect_undescribed (path : String) (schema : Json) :
    Undescribed (fun finding bare => bare = finding.undescribed) (resolver.inspect schema path)
      (resolver.undescribed.inspect (schema.undescribed .schema) path) := by
  unfold inspect
  rw [definitions_undescribed]
  refine .bind (.attempted (resolver.definitions.resolve_undescribed schema _)) ?_
  rintro reference _ rfl
  refine .bind (.note _ _) fun _ _ _ => ?_
  exact .attempted (findingOf_undescribed reference path)

variable (plain : resolver.settings.overrideKey ≠ "description")

include plain

theorem ownModel_undescribed (finding : Finding) (position : Option Int) :
    Undescribed Eq (resolver.ownModel finding parent key position path)
      (resolver.undescribed.ownModel finding.undescribed parent key position path) := by
  unfold ownModel Settings.nestedBase
  dsimp only [Resolver.undescribed, Finding.undescribed, Reference.undescribed]
  rw [givenBase?_undescribed plain]
  change Undescribed Eq _ (if finding.hasModel then _ else _)
  split
  next =>
    refine .bind_attempt _ fun base => ?_
    exact .bind (.visit rfl) fun _ _ _ => .pure rfl
  next => exact .pure rfl

theorem uniform_undescribed (schema : Json) :
    Undescribed Eq (resolver.uniform parent key path schema)
      (resolver.undescribed.uniform parent key path (schema.undescribed .schema)) := by
  unfold uniform
  refine .bind (resolver.inspect_undescribed path schema) ?_
  rintro finding _ rfl
  refine .bind (resolver.ownModel_undescribed plain finding none) ?_
  rintro name _ rfl
  exact .pure rfl

theorem alternative_undescribed (position : Nat) (entry : Json) :
    Undescribed Eq (resolver.alternative parent key path position entry)
      (resolver.undescribed.alternative parent key path position (entry.undescribed .schema)) := by
  unfold alternative
  rw [spelledOut_undescribed]
  dsimp only
  cases spelledOut entry with
  | obj members =>
    rw [Json.undescribed_obj]
    dsimp only
    rw [isNull_undescribed]
    split
    next => exact .pure rfl
    next =>
      rw [← Json.undescribed_obj]
      refine .bind (resolver.inspect_undescribed _ _) ?_
      rintro finding _ rfl
      refine .bind (resolver.ownModel_undescribed plain finding _) ?_
      rintro name _ rfl
      exact .pure rfl
  | _ => exact .fail rfl

theorem alternatives_undescribed (position : Nat) (entries : List Json) :
    Undescribed Eq (resolver.alternatives parent key path position entries)
      (resolver.undescribed.alternatives parent key path position
        (entries.map (Json.undescribed .schema))) := by
  induction entries generalizing position with
  | nil => exact .pure rfl
  | cons entry entries ih =>
    rw [List.map_cons]
    unfold alternatives
    refine .bind (resolver.alternative_undescribed plain position entry) ?_
    rintro first _ rfl
    refine .bind (ih _) ?_
    rintro rest _ rfl
    exact .pure rfl

theorem elementsOf_undescribed (items : Json) :
    Undescribed Eq (resolver.elementsOf parent key path items)
      (resolver.undescribed.elementsOf parent key path (items.undescribed .schema)) := by
  cases items with
  | obj members =>
    have uniform : Undescribed Eq (resolver.uniform parent key path (.obj members)) _ :=
      resolver.uniform_undescribed plain (.obj members)
    rw [Json.undescribed_obj] at uniform ⊢
    unfold elementsOf
    dsimp only
    rw [Json.lookup_undescribed (Json.Role.isDescription_of_ne (by decide) .schema)]
    rcases members.lookup "anyOf" with _ | value
    · exact uniform
    · cases value with
      | arr entries =>
        have several :
            Undescribed Eq (resolver.alternatives parent key (path ++ "/anyOf") 0 entries) _ :=
          resolver.alternatives_undescribed plain 0 entries
        rwa [← Json.itemsUndescribed_eq] at several
      | _ => exact .fail rfl
  | arr entries =>
    rw [Json.undescribed_arr]
    unfold elementsOf
    dsimp only
    rw [List.all_map]
    simp only [Function.comp_def, Json.text?_undescribed]
    split
    next texts =>
      have same : entries.map (Json.undescribed .schema) = entries := by
        conv_rhs => rw [← List.map_id entries]
        refine List.map_congr_left fun entry inside => ?_
        have text := List.all_eq_true.mp texts entry inside
        cases entry <;> first | rfl | cases text
      rw [show Json.Role.schema.ofItem = .schema from rfl, same]
      exact .attempted (.refl _)
    next => exact resolver.alternatives_undescribed plain 0 entries
  | null => exact .pure rfl
  | _ => exact .fail rfl

theorem elements_undescribed (list : Json) :
    Undescribed Eq (resolver.elements parent key path list)
      (resolver.undescribed.elements parent key path (list.undescribed .schema)) := by
  unfold elements
  rw [Json.member?_undescribed (by decide)]
  rcases list.member? "items" with misuse | _ | items
  · exact .fail rfl
  · exact .pure rfl
  · exact resolver.elementsOf_undescribed plain items

theorem held_undescribed (finding : Finding) :
    Undescribed Eq (resolver.held finding parent key path)
      (resolver.undescribed.held finding.undescribed parent key path) := by
  unfold held
  by_cases list : finding.inferred.tag = .array
  · have list' : finding.undescribed.inferred.tag = .array := list
    rw [if_pos list, if_pos list']
    exact resolver.elements_undescribed plain finding.reference.schema
  · have list' : finding.undescribed.inferred.tag ≠ .array := list
    rw [if_neg list, if_neg list']
    exact .pure rfl

theorem described_undescribed (entry : Json) (isRequired : Bool) (finding : Finding)
    (modelName : Option String) (elements : Elements) :
    Accord (fun one two => two.undescribed = one.undescribed)
      (described resolver.settings key entry isRequired finding modelName elements)
      (described resolver.settings key (entry.undescribed .schema) isRequired finding.undescribed
        modelName elements) := by
  unfold described Settings.propertyName
  rw [override?_undescribed plain]
  refine .bind_same _ fun name => ?_
  refine (descriptionOf_undescribed entry finding.reference.schema).bind fun _ _ _ => ?_
  split
  next => exact .ok rfl
  next => exact .error _

theorem property_undescribed (site : Site) (required : List Json) (entry : Json) :
    Undescribed (fun one two => two.undescribed = one.undescribed)
      (resolver.property site required key entry)
      (resolver.undescribed.property site.undescribed required key (entry.undescribed .schema)) := by
  unfold property
  rw [Json.isObject_undescribed]
  dsimp only [Site.undescribed]
  split
  next =>
    refine .bind (resolver.inspect_undescribed _ entry) ?_
    rintro finding _ rfl
    refine .bind (resolver.ownModel_undescribed plain finding none) ?_
    rintro modelName _ rfl
    refine .bind (resolver.held_undescribed plain finding) ?_
    rintro elements _ rfl
    exact .attempted (resolver.described_undescribed plain entry _ finding modelName elements)
  next => exact .fail rfl

theorem properties_undescribed (site : Site) (required : List Json) (entries : List (String × Json)) :
    Undescribed (fun one two => two.map Property.undescribed = one.map Property.undescribed)
      (entries.mapM fun (key, entry) => resolver.property site required key entry)
      ((Json.membersUndescribed .table entries).mapM fun (key, entry) =>
        resolver.undescribed.property site.undescribed required key entry) := by
  induction entries with
  | nil => exact .pure rfl
  | cons entry entries ih =>
    rw [Json.membersUndescribed, if_neg (by nofun), List.mapM_cons, List.mapM_cons]
    refine .bind (resolver.property_undescribed plain site required entry.2) fun one two same => ?_
    refine .bind ih fun rest rest' equal => .pure ?_
    rw [List.map_cons, List.map_cons, same, equal]

theorem model_undescribed (site : Site) :
    Undescribed (fun one two => two.undescribed = one.undescribed) (resolver.model site)
      (resolver.undescribed.model site.undescribed) := by
  unfold model
  rw [requiredOf_undescribed]
  refine .bind_attempt _ fun required => ?_
  refine .bind (.attempted (propertiesOf_undescribed site.schema)) ?_
  rintro entries _ rfl
  refine .bind (resolver.properties_undescribed plain site required entries) fun one two same => ?_
  exact .attempted (ofProperties_undescribed _ same)

theorem root_undescribed : Undescribed Eq resolver.root resolver.undescribed.root := by
  unfold root
  refine .bind (resolver.inspect_undescribed "#" resolver.document) ?_
  rintro finding _ rfl
  have based : Accord Eq
      (resolver.settings.rootBase finding.reference.schema finding.reference.name?)
      (resolver.settings.rootBase finding.undescribed.reference.schema finding.reference.name?) :=
    rootBase_undescribed plain finding.reference.schema finding.reference.name? ▸ .refl _
  refine .bind (.attempted based) ?_
  rintro base _ rfl
  by_cases modelled : finding.hasModel = true
  · have modelled' : finding.undescribed.hasModel = true := modelled
    rw [if_pos modelled, if_pos modelled']
    exact .visit rfl
  have modelled' : ¬ finding.undescribed.hasModel = true := modelled
  rw [if_neg modelled, if_neg modelled']
  by_cases list : finding.inferred.tag = .array
  · have list' : finding.undescribed.inferred.tag = .array := list
    rw [if_pos list, if_pos list', Script.discard_eq, Script.discard_eq]
    exact .bind (resolver.elements_undescribed plain _) fun _ _ _ => .pure rfl
  · have list' : finding.undescribed.inferred.tag ≠ .array := list
    rw [if_neg list, if_neg list']
    exact .note _ _

/-- A resolver does the same with what is left of a document without the descriptions. -/
theorem beside_undescribed : resolver.Beside (fun site bare => bare = site.undescribed) id
    (fun one two => two.undescribed = one.undescribed) resolver.undescribed where
  name := by
    rintro site _ rfl
    rfl
  fingerprint := by
    rintro site _ rfl
    exact Json.fingerprint_undescribed .schema site.schema
  placeless := by
    rintro site _ rfl cause details
    rfl
  model := by
    rintro site _ rfl
    exact resolver.model_undescribed plain site
  named _ _ same := show _ = Model.name (Model.undescribed _) from same ▸ rfl

end

/-- Models under their names, without the descriptions of their properties. -/
def bareModels (models : List (String × Model)) : List (String × Model) :=
  models.map fun (name, model) => (name, model.undescribed)

theorem resolveWithin_undescribed (resolver : Resolver)
    (plain : resolver.settings.overrideKey ≠ "description") (budget : Nat) (start : Progress) :
    ((resolver.undescribed.resolveWithin budget).run start).1.map bareModels =
      ((resolver.resolveWithin budget).run start).1.map bareModels := by
  have accord := (resolver.beside_undescribed plain).resolveWithin (resolver.root_undescribed plain)
    budget start start
  rcases accord.of_viewed with ⟨models, bare, one, two, fitting⟩ | ⟨failure, _, one, two, rfl⟩
  · rw [one, two]
    refine congrArg Except.ok (map_eq_of_forall₂ fitting ?_).symm
    rintro ⟨name, model⟩ ⟨_, other⟩ ⟨rfl, same⟩
    exact congrArg _ same.symm
  · rw [one, two]
    rfl

theorem ofDocument_undescribed {document other : Json} (settings : Settings)
    (same : document.undescribed .schema = other.undescribed .schema) :
    (∃ failure, ofDocument document settings = .error failure ∧
        ofDocument other settings = .error failure) ∨
      ofDocument document settings = .ok ⟨document, settings⟩ ∧
        ofDocument other settings = .ok ⟨other, settings⟩ := by
  have object := congrArg Json.isObject same
  have kind := congrArg Json.kindName same
  rw [Json.isObject_undescribed, Json.isObject_undescribed] at object
  rw [Json.kindName_undescribed, Json.kindName_undescribed] at kind
  cases document with
  | obj members =>
    cases other with
    | obj others => exact .inr ⟨rfl, rfl⟩
    | _ => cases object
  | _ =>
    refine .inl ⟨_, rfl, ?_⟩
    cases other with
    | obj others => cases object
    | _ => simp only [ofDocument, kind]

section

variable {document other : Json} {settings : Settings} {found : List (String × Model)}
  (plain : settings.overrideKey ≠ "description")
  (same : document.undescribed .schema = other.undescribed .schema)

include plain same

theorem resolveWithin_silent (budget : Nat) (start : Progress) :
    ((resolveWithin ⟨document, settings⟩ budget).run start).1.map bareModels =
      ((resolveWithin ⟨other, settings⟩ budget).run start).1.map bareModels := by
  have one := resolveWithin_undescribed ⟨document, settings⟩ plain budget start
  have two := resolveWithin_undescribed ⟨other, settings⟩ plain budget start
  have resolver : undescribed ⟨document, settings⟩ = undescribed ⟨other, settings⟩ :=
    congrArg (Resolver.mk · settings) same
  rw [← one, ← two, resolver]

theorem models_silent (distinct : other.Distinct) (ok : models document settings = .ok found) :
    ∃ found', models other settings = .ok found' ∧ bareModels found' = bareModels found := by
  unfold models at ok ⊢
  rcases ofDocument_undescribed settings same with ⟨failure, one, -⟩ | ⟨one, two⟩
  · rw [one] at ok
    cases ok
  rw [one] at ok
  rw [two]
  have ok : ((resolve ⟨document, settings⟩).run {}).1 = .ok found := ok
  have silent := resolveWithin_silent plain same (budget ⟨document, settings⟩) {}
  rw [resolve] at ok
  rw [ok] at silent
  rcases ran : (resolveWithin ⟨other, settings⟩ (budget ⟨document, settings⟩)).run {} with
    ⟨failure | found', final⟩
  · rw [ran] at silent
    cases silent
  · rw [ran] at silent
    have resolved := resolve_of_resolveWithin distinct plain ran
    exact ⟨found', congrArg Prod.fst resolved, (Except.ok.inj silent).symm⟩

theorem failures_silent (enough : models document settings ≠ .error .exhausted)
    (enough' : models other settings ≠ .error .exhausted) :
    (models document settings).map bareModels = (models other settings).map bareModels := by
  revert enough enough'
  unfold models
  rcases ofDocument_undescribed settings same with ⟨failure, one, two⟩ | ⟨one, two⟩
  · rw [one, two]
    exact fun _ _ => rfl
  rw [one, two]
  intro enough enough'
  have greater := Nat.le_max_left (budget ⟨document, settings⟩) (budget ⟨other, settings⟩)
  have greater' := Nat.le_max_right (budget ⟨document, settings⟩) (budget ⟨other, settings⟩)
  change ((resolve ⟨document, settings⟩).run {}).1.map _ = ((resolve ⟨other, settings⟩).run {}).1.map _
  rw [resolve, ← resolveWithin_of_le enough greater, resolve, ← resolveWithin_of_le enough' greater']
  exact resolveWithin_silent plain same _ {}

end

/-- Documents that differ in descriptions only come to the same. If one has models, so has the other, of
the same names in the same order, that are the same but for the descriptions of properties. If one
fails, so does the other, in the same way unless a budget runs out; and at the same budget it is
always the same. -/
theorem descriptions_silent {document other : Json} {settings : Settings}
    (distinct : document.Distinct) (distinct' : other.Distinct)
    (plain : settings.overrideKey ≠ "description")
    (same : document.undescribed .schema = other.undescribed .schema) :
    (∀ found, models document settings = .ok found →
      ∃ found', models other settings = .ok found' ∧ bareModels found' = bareModels found) ∧
    (∀ failure, models document settings = .error failure →
      ∃ failure', models other settings = .error failure' ∧
        (failure' = failure ∨ failure = .exhausted ∨ failure' = .exhausted)) ∧
    ∀ budget start,
      ((resolveWithin ⟨document, settings⟩ budget).run start).1.map bareModels =
        ((resolveWithin ⟨other, settings⟩ budget).run start).1.map bareModels := by
  refine ⟨fun found => models_silent plain same distinct', fun failure failed => ?_,
    resolveWithin_silent plain same⟩
  rcases other_failed : models other settings with failure' | found'
  · refine ⟨failure', rfl, ?_⟩
    by_cases exhausted : failure = .exhausted ∨ failure' = .exhausted
    · exact .inr exhausted
    · obtain ⟨enough, enough'⟩ := not_or.mp exhausted
      have equal := failures_silent plain same (by simpa [failed]) (by simpa [other_failed])
      rw [failed, other_failed] at equal
      exact .inl (Except.error.inj equal).symm
  · obtain ⟨found, ok, -⟩ := models_silent plain same.symm distinct other_failed
    cases failed.symm.trans ok

/-- A document where all schemas have some further members: the root, a definition, properties, one of
them with the name of a description, a list and the alternatives for what it holds. -/
def toldDocument (note : List (String × Json)) : Json := .obj (note ++ [
  ("type", .str "object"),
  ("properties", .obj [
    ("description", .obj (note ++ [("type", .str "string")])),
    ("maker", .obj (note ++ [("$ref", .str "#/definitions/maker")])),
    ("parts", .obj (note ++ [
      ("type", .str "array"),
      ("items", .obj (note ++ [("anyOf", .arr [
        .obj (note ++ [("type", .str "null")]),
        .obj (note ++ [
          ("type", .str "object"),
          ("properties", .obj [("size", .obj (note ++ [("type", .str "integer")]))])])])]))]))]),
  ("definitions", .obj [
    ("maker", .obj (note ++ [
      ("type", .str "object"),
      ("properties", .obj [("name", .obj (note ++ [("type", .str "string")]))])]))])])

theorem descriptions_silent_told : ∃ found found',
    models (toldDocument [("description", .str "told")]) {} = .ok found ∧
    models (toldDocument []) {} = .ok found' ∧ found' ≠ found ∧
    bareModels found' = bareModels found ∧
    ∀ budget start,
      ((resolveWithin ⟨toldDocument [("description", .str "told")], {}⟩ budget).run start).1.map
          bareModels =
        ((resolveWithin ⟨toldDocument [], {}⟩ budget).run start).1.map bareModels := by
  have told : (models (toldDocument [("description", .str "told")]) {}).toOption.any (fun found =>
      (models (toldDocument []) {}).toOption.all (· ≠ found)) = true := by decide +kernel
  have distinct : (toldDocument [("description", .str "told")]).Distinct := by
    simp [toldDocument, Json.Distinct, Json.MembersDistinct, Json.ItemsDistinct]
  have distinct' : (toldDocument []).Distinct := by
    simp [toldDocument, Json.Distinct, Json.MembersDistinct, Json.ItemsDistinct]
  obtain ⟨silent, -, within⟩ := @descriptions_silent _ _ {} distinct distinct' (by decide) rfl
  rcases ok : models (toldDocument [("description", .str "told")]) {} with failure | found
  · rw [ok] at told
    cases told
  · obtain ⟨found', ok', same⟩ := silent found ok
    rw [ok, ok'] at told
    exact ⟨found, found', rfl, ok', of_decide_eq_true told, same, within⟩

end Resolver

end SchemaCatalog
