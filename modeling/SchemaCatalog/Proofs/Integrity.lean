import SchemaCatalog.Proofs.Findings

/-! References between models. A name is handed out when it is claimed, long before its model is built,
so the invariant speaks of claims: every slot was claimed for some site, and once its model is built,
all sites visited for that have claims too. Main statement: the models of a document refer only to
one another and to tags.
-/
namespace SchemaCatalog

/-- What a model keeps in order when its references may lead to some names only. -/
structure Model.Closed (names : List String) (model : Model) : Prop where
  modelNames : ∀ property ∈ model.properties, ∀ name ∈ property.modelName, name ∈ names
  elementTypes : ∀ property ∈ model.properties, ∀ name ∈ property.elementTypes,
    name ∈ names ∨ ∃ tag : Tag, tag.name = name
  dependencies : ∀ name, name ∈ model.dependencies ↔
    ∃ property ∈ model.properties, property.modelName = some name ∨ name ∈ property.elementTypes
  hasProperties : ∀ property ∈ model.properties,
    (property.modelName.isSome ↔ property.hasProperties) ∧
      (property.hasProperties → property.tag = .object)
  lists : ∀ property ∈ model.properties, property.elementTypes ≠ [] → property.tag = .array
  nonempty : model.properties ≠ []

namespace Resolver

variable {resolver : Resolver} {world : Site → Prop} {registry next : Registry} {site : Site}
  {slot : Slot} {model : Model}

/-- Sites with which all belong together that are visited for them. -/
def Stable (resolver : Resolver) (world : Site → Prop) : Prop :=
  ∀ site, world site → ∀ child ∈ (resolver.model site).visits, world child

theorem stable_modelled (resolver : Resolver) : resolver.Stable Site.Modelled :=
  fun _ _ _ inside => (child_of_mem_visits inside).modelled

def Covered (resolver : Resolver) (registry : Registry) (site : Site) : Prop :=
  (resolver.nameOf site, site.schema.fingerprint) ∈ registry.claims

theorem Covered.mem_names (covered : resolver.Covered registry site) :
    resolver.nameOf site ∈ registry.names := by
  rw [Registry.names_eq_claims]
  exact List.mem_map_of_mem covered

/-- A site that a slot can have been claimed for, with the model that the slot holds. -/
structure Origin (resolver : Resolver) (world : Site → Prop) (registry : Registry) (slot : Slot)
    (site : Site) : Prop where
  name : resolver.nameOf site = slot.name
  fingerprint : site.schema.fingerprint = slot.fingerprint
  inside : world site
  built : ∀ model ∈ slot.model, (resolver.model site).outcome = .ok model ∧
    ∀ child ∈ (resolver.model site).visits, resolver.Covered registry child

/-- Names are claimed once, and each for a site. -/
structure Grounded (resolver : Resolver) (world : Site → Prop) (registry : Registry) : Prop where
  distinct : registry.names.Nodup
  origin : ∀ slot ∈ registry.slots, ∃ site, resolver.Origin world registry slot site

theorem Origin.mono (origin : resolver.Origin world registry slot site)
    (grown : ∀ claim ∈ registry.claims, claim ∈ next.claims) : resolver.Origin world next slot site where
  name := origin.name
  fingerprint := origin.fingerprint
  inside := origin.inside
  built model held :=
    ⟨(origin.built model held).1, fun child inside => grown _ ((origin.built model held).2 child inside)⟩

theorem grounded_empty (resolver : Resolver) (world : Site → Prop) : resolver.Grounded world {} where
  distinct := List.nodup_nil
  origin _ inside := nomatch inside

theorem covered_claim (claimed : resolver.claim site registry = .ok (true, next)) :
    resolver.Covered next site := by
  exact (Registry.mem_claims_reserve_new claimed).mpr (.inr rfl)

theorem Grounded.claim (grounded : resolver.Grounded world registry) (here : world site)
    (claimed : resolver.claim site registry = .ok (true, next)) : resolver.Grounded world next := by
  have grown : ∀ claim ∈ registry.claims, claim ∈ next.claims :=
    fun _ inside => (Registry.mem_claims_reserve_new claimed).mpr (.inl inside)
  constructor
  · exact Registry.nodup_reserve_new claimed grounded.distinct
  · intro slot inside
    rw [(Registry.reserve_new claimed).2] at inside
    rcases List.mem_append.mp inside with old | new
    · obtain ⟨other, origin⟩ := grounded.origin slot old
      exact ⟨other, origin.mono grown⟩
    · cases List.mem_singleton.mp new
      exact ⟨site, rfl, rfl, here, fun _ held => nomatch held⟩

/-- A model goes into the slot of the site it was built for, whichever claimed that. -/
theorem Grounded.store (grounded : resolver.Grounded world registry) (here : world site)
    (covered : resolver.Covered registry site) (built : (resolver.model site).outcome = .ok model)
    (visited : ∀ child ∈ (resolver.model site).visits, resolver.Covered registry child)
    (stored : registry.store model = .ok next) : resolver.Grounded world next := by
  have named := name_of_model built
  have claims := Registry.claims_store stored
  constructor
  · rw [Registry.names_store stored]
    exact grounded.distinct
  · intro slot inside
    rw [(Registry.store_ok stored).2] at inside
    obtain ⟨old, member, rfl⟩ := List.mem_map.mp inside
    split
    next same =>
      have fingerprint : site.schema.fingerprint = old.fingerprint := by
        refine Registry.claims_unique grounded.distinct covered (Registry.mem_claims.mpr ?_)
        exact ⟨old, member, same.trans named, rfl⟩
      refine ⟨site, named.symm.trans same.symm, fingerprint, here, ?_⟩
      rintro _ ⟨⟩
      refine ⟨built, fun child below => ?_⟩
      rw [Covered, claims]
      exact visited child below
    next =>
      obtain ⟨other, origin⟩ := grounded.origin old member
      exact ⟨other, origin.mono fun claim known => claims ▸ known⟩

theorem closed_of_model (modelled : site.Modelled)
    (built : (resolver.model site).outcome = .ok model) {names : List String}
    (listed : ∀ child ∈ (resolver.model site).visits, resolver.nameOf child ∈ names) :
    model.Closed names := by
  constructor
  · intro property member name known
    obtain ⟨_, _, _, made, below⟩ := property_of_model built member
    obtain ⟨child, inside, named⟩ := modelName_of_property made name known
    exact named ▸ listed child (below child inside)
  · intro property member name known
    obtain ⟨_, _, _, made, below⟩ := property_of_model built member
    rcases elementTypes_of_property made name known with ⟨child, inside, named⟩ | tagged
    · exact .inl (named ▸ listed child (below child inside))
    · exact .inr tagged
  · obtain ⟨_, _, _, _, _, _, dependencies⟩ := model_ok.mp built
    intro name
    rw [dependencies, NameSet.mem_ofList, List.mem_flatMap]
    simp only [Property.dependencies, List.mem_append, Option.mem_toList]
  · intro property member
    obtain ⟨_, _, _, made, -⟩ := property_of_model built member
    obtain ⟨flag, object, -⟩ := tag_of_property made
    rw [flag]
    exact ⟨Iff.rfl, object⟩
  · intro property member listed
    obtain ⟨_, _, _, made, -⟩ := property_of_model built member
    exact (tag_of_property made).2.2 listed
  · obtain ⟨_, entries, _, declared, related, -⟩ := model_ok.mp built
    obtain ⟨others, nonempty, known⟩ := modelled
    cases declared.symm.trans known
    rintro none
    rw [none] at related
    exact nonempty (List.forall₂_nil_right_iff.mp related)

theorem Grounded.closed (grounded : resolver.Grounded Site.Modelled registry)
    {models : List (String × Model)} (frozen : registry.freeze = .ok models) {key : String}
    (stored : (key, model) ∈ models) :
    key = model.name ∧ model.Closed (models.map (·.1)) := by
  obtain ⟨-, keys, held⟩ := Registry.freeze_ok frozen
  obtain ⟨slot, inside, rfl, built⟩ := (held key model).mp stored
  obtain ⟨site, origin⟩ := grounded.origin slot inside
  obtain ⟨made, visited⟩ := origin.built model built
  refine ⟨origin.name.symm.trans (name_of_model made).symm, closed_of_model origin.inside made ?_⟩
  intro child below
  rw [keys]
  exact (visited child below).mem_names

end Resolver

namespace Walk

variable {resolver : Resolver} {budget : Nat} {enclosing : List String} {acts : List Act}
  {progress final : Progress} {outcome : Except Failure Unit}

theorem claims_grow (walk : Walk resolver budget enclosing acts progress outcome final) :
    ∀ claim ∈ progress.registry.claims, claim ∈ final.registry.claims := by
  have kept {site : Site} {registry next : Registry}
      (claimed : resolver.claim site registry = .ok (true, next)) :
      ∀ claim ∈ registry.claims, claim ∈ next.claims :=
    fun _ inside => (Registry.mem_claims_reserve_new claimed).mpr (.inl inside)
  induction walk with
  | done => exact fun _ inside => inside
  | note _ ih => exact ih
  | exhausted => exact fun _ inside => inside
  | collided => simp
  | reused _ _ ih => exact ih
  | failed claimed _ ih => exact fun claim inside => ih claim (kept claimed claim inside)
  | unfinished claimed _ _ ih =>
    simpa using fun _ _ inside => ih _ (kept claimed _ inside)
  | unstored claimed _ _ _ ih =>
    simpa using fun _ _ inside => ih _ (kept claimed _ inside)
  | stored claimed _ _ stored _ ih ihRest =>
    intro claim inside
    refine ihRest claim ?_
    rw [Progress.registry_noting, Registry.claims_store stored]
    exact ih claim (kept claimed claim inside)

/-- Acts that succeed leave no visited site without a claim. -/
theorem covers (walk : Walk resolver budget enclosing acts progress outcome final)
    (ok : outcome = .ok ()) :
    ∀ site, Act.visit site ∈ acts → resolver.Covered final.registry site := by
  induction walk with
  | done => exact fun _ inside => nomatch inside
  | note _ ih =>
    intro site inside
    rcases List.mem_cons.mp inside with ⟨⟨⟩⟩ | inside
    exact ih ok site inside
  | exhausted => cases ok
  | collided => cases ok
  | reused known rest ih =>
    intro site inside
    rcases List.mem_cons.mp inside with ⟨⟨⟩⟩ | inside
    · exact rest.claims_grow _ (Registry.reserve_known known).2
    · exact ih ok site inside
  | failed => cases ok
  | unfinished => cases ok
  | unstored => cases ok
  | stored claimed inner _ stored rest _ ihRest =>
    intro site inside
    rcases List.mem_cons.mp inside with ⟨⟨⟩⟩ | inside
    · refine rest.claims_grow _ ?_
      rw [Progress.registry_noting, Registry.claims_store stored]
      exact inner.claims_grow _ (Resolver.covered_claim claimed)
    · exact ihRest ok site inside

/-- Registries stay grounded, and acts that succeed leave no visited site without a claim. -/
theorem grounded (walk : Walk resolver budget enclosing acts progress outcome final)
    {world : Site → Prop} (stable : resolver.Stable world)
    (start : resolver.Grounded world progress.registry)
    (here : ∀ site, Act.visit site ∈ acts → world site) :
    resolver.Grounded world final.registry ∧
      (outcome = .ok () → ∀ site, Act.visit site ∈ acts → resolver.Covered final.registry site) := by
  refine ⟨?_, walk.covers⟩
  have below {site : Site} (here : world site) :
      ∀ child, Act.visit child ∈ (resolver.model site).acts → world child :=
    fun child inside => stable site here child (Script.mem_visits.mpr inside)
  induction walk with
  | done => exact start
  | note _ ih => exact ih start fun site inside => here site (.tail _ inside)
  | exhausted => exact start
  | collided => simpa using start
  | reused _ _ ih => exact ih start fun site inside => here site (.tail _ inside)
  | failed claimed _ ih =>
    have own := here _ List.mem_cons_self
    exact ih (start.claim own claimed) (below own)
  | unfinished claimed _ _ ih =>
    have own := here _ List.mem_cons_self
    simpa using ih (start.claim own claimed) (below own)
  | unstored claimed _ _ _ ih =>
    have own := here _ List.mem_cons_self
    simpa using ih (start.claim own claimed) (below own)
  | stored claimed inner built stored _ ih ihRest =>
    have own := here _ List.mem_cons_self
    have middle := ih (start.claim own claimed) (below own)
    have covered := inner.claims_grow _ (Resolver.covered_claim claimed)
    have visited := fun child inside => inner.covers rfl child (Script.mem_visits.mp inside)
    exact ihRest (middle.store own covered built visited stored)
      fun site inside => here site (.tail _ inside)

/-- The registry is grounded once the model of a site that claimed its name has been stored. -/
theorem grounded_stored {site : Site} {registry next : Registry} {model : Model} {middle : Progress}
    {calls : List String} {world : Site → Prop} (stable : resolver.Stable world)
    (start : resolver.Grounded world progress.registry) (own : world site)
    (claimed : resolver.claim site progress.registry = .ok (true, registry))
    (inner : Walk resolver budget calls (resolver.model site).acts
      (resolver.entered site enclosing progress registry) (.ok ()) middle)
    (built : (resolver.model site).outcome = .ok model)
    (kept : middle.registry.store model = .ok next) : resolver.Grounded world next := by
  obtain ⟨grounded, visited⟩ := inner.grounded stable (start.claim own claimed)
    fun child inside => stable site own child (Script.mem_visits.mpr inside)
  have covered := inner.claims_grow _ (Resolver.covered_claim claimed)
  exact grounded.store own covered built
    (fun child inside => visited rfl child (Script.mem_visits.mp inside)) kept

end Walk

namespace Resolver

theorem modelled_of_start {resolver : Resolver} :
    ∀ site, Act.visit site ∈ resolver.root.acts → site.Modelled :=
  fun _ inside => (start_of_mem_visits (Script.mem_visits.mpr inside)).modelled

theorem ofDocument_ok {document : Json} {settings : Settings} {resolver : Resolver}
    (ok : ofDocument document settings = .ok resolver) : resolver = ⟨document, settings⟩ := by
  cases document with
  | obj =>
    cases ok
    rfl
  | _ => cases ok

/-- The models of a document come under their own names, one for each, and refer only to one another
and to tags. -/
theorem models_closed {document : Json} {settings : Settings} {models : List (String × Model)}
    (ok : Resolver.models document settings = .ok models) :
    (models.map (·.1)).Nodup ∧ ∀ key model, (key, model) ∈ models →
      key = model.name ∧ model.Closed (models.map (·.1)) := by
  obtain ⟨resolver, -, ok⟩ := Failure.bind_eq_ok.mp ok
  obtain ⟨middle, walk, -, frozen, -⟩ := resolveWithin_ok.mp (Prod.ext ok rfl)
  obtain ⟨grounded, -⟩ :=
    walk.grounded resolver.stable_modelled (grounded_empty resolver _) modelled_of_start
  refine ⟨?_, fun key model stored => grounded.closed frozen stored⟩
  rw [(Registry.freeze_ok frozen).2.1]
  exact grounded.distinct

/-- A schema that leads back to itself under the name of a definition, by a property and by a list. -/
def linkSchema : Json := .obj [
  ("type", .str "object"),
  ("properties", .obj [
    ("next", .obj [("$ref", .str "#/definitions/link")]),
    ("others", .obj [("type", .str "array"),
      ("items", .arr [.str "string", .obj [("$ref", .str "#/definitions/link")]])])])]

def linkedDocument : Json := .obj [
  ("type", .str "object"),
  ("properties", .obj [("first", .obj [("$ref", .str "#/definitions/link")])]),
  ("definitions", .obj [("link", linkSchema)])]

theorem models_closed_linked : ∃ models, Resolver.models linkedDocument {} = .ok models ∧
    models.map (·.1) = ["Model", "LinkModel"] ∧ (models.map (·.1)).Nodup ∧ ∀ key model, (key, model) ∈ models →
      key = model.name ∧ model.Closed (models.map (·.1)) := by
  have names : (Resolver.models linkedDocument {}).toOption.map (·.map (·.1)) =
      some ["Model", "LinkModel"] := by decide +kernel
  cases ok : Resolver.models linkedDocument {} with
  | error failure =>
    rw [ok] at names
    cases names
  | ok models =>
    rw [ok] at names
    exact ⟨models, rfl, Option.some.inj names, models_closed ok⟩

end Resolver

end SchemaCatalog
