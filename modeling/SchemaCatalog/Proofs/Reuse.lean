import SchemaCatalog.Proofs.Mirror
import SchemaCatalog.Proofs.Termination

/-! Names used again. Whichever schema a name was claimed for first, the model stored under it was built
for a schema of the same structure. Where no annotation stands in the place of a property or a
requirement, every schema that shares the name can be built on its own, and its model is alike.
-/
namespace SchemaCatalog

open Fingerprint

namespace Walk

variable {resolver : Resolver} {budget : Nat} {enclosing calls : List String} {acts : List Act}
  {progress final : Progress} {outcome : Except Failure Unit} {site : Site}

/-- A name that waits for its model is left to whoever claimed it. -/
theorem pending_stays (walk : Walk resolver budget enclosing acts progress outcome final) {name : String}
    (waits : name ∈ progress.registry.pending) : name ∈ final.registry.pending := by
  have entered {site : Site} {registry next : Registry} (waits : name ∈ registry.pending)
      (claimed : resolver.claim site registry = .ok (true, next)) : name ∈ next.pending := by
    rw [Registry.pending_reserve_new claimed]
    exact List.mem_append_left _ waits
  induction walk with
  | done => exact waits
  | note _ ih => exact ih waits
  | exhausted => exact waits
  | collided => simpa using waits
  | reused _ _ ih => exact ih waits
  | failed claimed _ ih => exact ih (entered waits claimed)
  | unfinished claimed _ _ ih => simpa using ih (entered waits claimed)
  | unstored claimed _ _ _ ih => simpa using ih (entered waits claimed)
  | stored claimed _ built kept _ ih ihRest =>
    apply ihRest
    rw [Progress.registry_noting, Registry.pending_store kept, List.mem_filter, decide_eq_true_eq]
    refine ⟨ih (entered waits claimed), fun same => ?_⟩
    have named := Resolver.name_of_model built
    apply (Registry.reserve_new claimed).1
    exact (same.trans named) ▸ Registry.mem_names_of_pending waits

/-- Once all is done for a model, the slot of the site that claimed its name is still free. -/
theorem stores {registry next : Registry} {model : Model} {middle : Progress} {inside : List Event}
    (claimed : resolver.claim site registry = .ok (true, next))
    (inner : Walk resolver budget enclosing acts ⟨next, inside⟩ outcome middle)
    (built : (resolver.model site).outcome = .ok model) (distinct : middle.registry.names.Nodup)
    (failure : Failure) : middle.registry.store model ≠ .error failure := by
  have waits := inner.pending_stays (Registry.pending_reserve_new claimed ▸
    List.mem_append_right _ List.mem_cons_self)
  rw [← Resolver.name_of_model built] at waits
  rw [Registry.store_of_pending distinct waits]
  nofun

/-- A site reached in a walk that succeeds belongs to those it keeps to, and has its claim. -/
theorem reached (walk : Walk resolver budget enclosing acts progress outcome final)
    {world : Site → Prop} (stable : resolver.Stable world)
    (here : ∀ site, Act.visit site ∈ acts → world site) (ok : outcome = .ok ())
    (event : .reached site calls ∈ final.events) :
    .reached site calls ∈ progress.events ∨ world site ∧ resolver.Covered final.registry site := by
  have below {site : Site} (here : world site) :
      ∀ child, Act.visit child ∈ (resolver.model site).acts → world child :=
    fun child inside => stable site here child (Script.mem_visits.mpr inside)
  induction walk with
  | done => exact .inl event
  | @note _ _ remark _ _ _ _ rest ih =>
    rcases ih (fun site inside => here site (.tail _ inside)) ok event with before | known
    · rcases List.mem_cons.mp before with same | before
      · cases remark <;> cases same
      · exact .inl before
    · exact .inr known
  | exhausted => cases ok
  | collided => cases ok
  | reused known rest ih =>
    rcases ih (fun site inside => here site (.tail _ inside)) ok event with before | known
    · rcases List.mem_cons.mp before with same | before
      · cases same
        refine .inr ⟨here _ List.mem_cons_self, ?_⟩
        exact rest.claims_grow _ (Registry.reserve_known known).2
      · exact .inl before
    · exact .inr known
  | failed => cases ok
  | unfinished => cases ok
  | unstored => cases ok
  | stored claimed inner built kept rest ih ihRest =>
    have own := here _ List.mem_cons_self
    have grown : ∀ claim ∈ _, claim ∈ _ := fun claim inside => rest.claims_grow claim
      ((Registry.claims_store kept).symm ▸ inside)
    rcases ihRest (fun site inside => here site (.tail _ inside)) ok event with before | known
    · rcases List.mem_cons.mp before with same | before
      · cases same
      rcases ih (below own) rfl before with before | ⟨known, covered⟩
      · rcases List.mem_cons.mp before with same | before
        · cases same
        rcases List.mem_cons.mp before with same | before
        · cases same
          exact .inr ⟨own, grown _ (inner.claims_grow _ (Resolver.covered_claim claimed))⟩
        · exact .inl before
      · exact .inr ⟨known, grown _ covered⟩
    · exact .inr known

end Walk

namespace Resolver

variable {resolver : Resolver} {registry : Registry} {models : List (String × Model)} {site : Site}
  {start final : Progress}

/-- A site with properties of its own whose schema is a value of the document. -/
def Placed (resolver : Resolver) (site : Site) : Prop :=
  site.Modelled ∧ site.schema ∈ resolver.document.values

theorem stable_placed (resolver : Resolver) : resolver.Stable resolver.Placed := by
  intro site here child inside
  have below := child_of_mem_visits inside
  exact ⟨below.modelled, below.mem_values here.2⟩

theorem placed_of_start : ∀ site, Act.visit site ∈ resolver.root.acts → resolver.Placed site := by
  intro site inside
  have start := start_of_mem_visits (Script.mem_visits.mpr inside)
  exact ⟨start.modelled, start.mem_values⟩

/-- A registry as a resolution leaves it, with its models. -/
structure Settled (resolver : Resolver) (registry : Registry) (models : List (String × Model)) :
    Prop where
  grounded : resolver.Grounded resolver.Placed registry
  frozen : registry.freeze = .ok models

theorem reached_of_resolve (ok : resolver.resolve.run {} = (.ok models, final)) {world : Site → Prop}
    (stable : resolver.Stable world) (start : ∀ site, Act.visit site ∈ resolver.root.acts → world site) :
    ∀ site calls, .reached site calls ∈ final.events →
      world site ∧ resolver.Covered final.registry site := by
  obtain ⟨middle, walk, -, -, rfl⟩ := resolveWithin_ok.mp ok
  intro site calls event
  rcases List.mem_cons.mp event with same | event
  · cases same
  rcases walk.reached stable start rfl event with before | known
  · rcases List.mem_cons.mp before with same | before
    · cases same
    · cases before
  · exact known

/-- A resolution that succeeds settles the registry, and what it started from has claims. -/
theorem settled_of_resolveWithin {budget : Nat}
    (ok : (resolver.resolveWithin budget).run start = (.ok models, final)) :
    resolver.Settled final.registry models ∧
      ∀ site, Act.visit site ∈ resolver.root.acts → resolver.Covered final.registry site := by
  obtain ⟨middle, walk, -, frozen, rfl⟩ := resolveWithin_ok.mp ok
  obtain ⟨grounded, covered⟩ :=
    walk.grounded resolver.stable_placed (grounded_empty resolver _) placed_of_start
  exact ⟨⟨grounded, frozen⟩, covered rfl⟩

theorem settled_of_resolve (ok : resolver.resolve.run {} = (.ok models, final)) :
    resolver.Settled final.registry models ∧ ∀ site calls, .reached site calls ∈ final.events →
      resolver.Placed site ∧ resolver.Covered final.registry site :=
  ⟨(settled_of_resolveWithin ok).1, reached_of_resolve ok resolver.stable_placed placed_of_start⟩

theorem Settled.nodup (settled : resolver.Settled registry models) : (models.map (·.1)).Nodup := by
  rw [(Registry.freeze_ok settled.frozen).2.1]
  exact settled.grounded.distinct

theorem Settled.mem_names (settled : resolver.Settled registry models)
    (covered : resolver.Covered registry site) : resolver.nameOf site ∈ models.map (·.1) := by
  rw [(Registry.freeze_ok settled.frozen).2.1]
  exact covered.mem_names

/-- Every model was built for a site that claimed its name, as did all sites visited for that. -/
theorem Settled.origin (settled : resolver.Settled registry models) {key : String} {model : Model}
    (stored : (key, model) ∈ models) : ∃ site, resolver.Placed site ∧ resolver.nameOf site = key ∧
      resolver.Covered registry site ∧ (resolver.model site).outcome = .ok model ∧
      ∀ child ∈ (resolver.model site).visits, resolver.Covered registry child := by
  obtain ⟨slot, inside, rfl, kept⟩ := ((Registry.freeze_ok settled.frozen).2.2 key model).mp stored
  obtain ⟨site, origin⟩ := settled.grounded.origin slot inside
  have covered : resolver.Covered registry site :=
    Registry.mem_claims.mpr ⟨slot, inside, origin.name.symm, origin.fingerprint.symm⟩
  exact ⟨site, origin.inside, origin.name, covered, origin.built model kept⟩

theorem base_of_nameOf {other : Site} (same : resolver.nameOf site = resolver.nameOf other) :
    site.base = other.base := by
  rw [nameOf, nameOf, Settings.modelName, Settings.modelName, String.append_left_inj,
    String.append_right_inj] at same
  exact same

/-- Behind every claim stands a model that was built for the same structure and base name. -/
theorem Settled.twin (settled : resolver.Settled registry models)
    (covered : resolver.Covered registry site) : ∃ twin model,
      resolver.Placed twin ∧ site.base = twin.base ∧
      twin.schema.fingerprint = site.schema.fingerprint ∧
      (resolver.nameOf site, model) ∈ models ∧ (resolver.model twin).outcome = .ok model ∧
      ∀ child ∈ (resolver.model twin).visits, resolver.Covered registry child := by
  obtain ⟨none_waits, -, held⟩ := Registry.freeze_ok settled.frozen
  obtain ⟨slot, inside, named, printed⟩ := Registry.mem_claims.mp covered
  obtain ⟨twin, origin⟩ := settled.grounded.origin slot inside
  cases stored : slot.model with
  | none =>
    have waits : slot.name ∈ registry.pending := Registry.mem_pending.mpr ⟨slot, inside, stored, rfl⟩
    rw [none_waits] at waits
    cases waits
  | some model =>
    obtain ⟨built, visited⟩ := origin.built model stored
    refine ⟨twin, model, origin.inside, ?_, origin.fingerprint.trans printed, ?_, built, visited⟩
    · exact base_of_nameOf (named.symm.trans origin.name.symm)
    · exact (held _ model).mpr ⟨slot, inside, named, stored⟩

theorem declaring_of_legible (modelled : site.Modelled) (legible : site.schema.Legible) :
    site.schema.Declaring := by
  obtain ⟨entries, some, declared⟩ := modelled
  have plain := legible "properties" (by decide) _ (propertiesOf_ok.mp declared) entries rfl
  exact ⟨entries, declared, plain.symm ▸ some⟩

/-- No annotation stands in the place of a property or a requirement where a model has been built. -/
theorem legible_of_model {model : Model} (built : (resolver.model site).outcome = .ok model) :
    site.schema.Legible := by
  obtain ⟨_, entries, needed, declared, made, -⟩ := model_ok.mp built
  intro name listed value looked members object
  subst object
  have either : name = "properties" ∨ name = "required" := by simpa using listed
  rcases either with rfl | rfl
  · cases (propertiesOf_ok.mp declared).symm.trans looked
    exact kept_of_properties (Script.outcome_mapM.mpr made)
  · obtain ⟨found, known, given⟩ := requiredOf_ok.mp needed
    cases known.symm.trans looked
    rcases given with names | ⟨empty, -⟩
    · cases names
    · rw [List.isEmpty_iff.mp empty]
      rfl

theorem declaring_of_model {model : Model} (modelled : site.Modelled)
    (built : (resolver.model site).outcome = .ok model) : site.schema.Declaring :=
  declaring_of_legible modelled (legible_of_model built)

theorem Placed.distinct (placed : resolver.Placed site) (distinct : resolver.document.Distinct) :
    site.schema.Distinct :=
  distinct.of_values _ placed.2

theorem Covered.alike {other : Site} (covered : resolver.Covered registry site)
    (like : site.Alike other) : resolver.Covered registry other := by
  rw [Covered, nameOf, like.schema.fingerprint, ← like.base] at covered
  exact covered

section

variable (distinct : resolver.document.Distinct) (plain : resolver.settings.overrideKey ≠ "description")

include distinct

theorem Settled.alike (settled : resolver.Settled registry models) (own : site.schema.Distinct)
    (covered : resolver.Covered registry site) : ∃ twin model,
      resolver.Placed twin ∧ twin.Alike site ∧
      (resolver.nameOf site, model) ∈ models ∧ (resolver.model twin).outcome = .ok model ∧
      ∀ child ∈ (resolver.model twin).visits, resolver.Covered registry child := by
  obtain ⟨twin, model, placed, based, printed, stored, built, visited⟩ := settled.twin covered
  have like := Json.alike_of_fingerprint (placed.distinct distinct) own printed
  exact ⟨twin, model, placed, ⟨like, based⟩, stored, built, visited⟩

theorem Settled.declaring (settled : resolver.Settled registry models) (inside : resolver.Placed site)
    (covered : resolver.Covered registry site) : site.schema.Declaring := by
  obtain ⟨twin, model, placed, like, -, built, -⟩ :=
    settled.alike distinct (inside.distinct distinct) covered
  exact declaring_of_alike like.schema (declaring_of_model placed.1 built)

/-- Whatever was visited for a model declares more than annotations. -/
theorem Settled.declaring_below (settled : resolver.Settled registry models)
    (inside : resolver.Placed site)
    (visited : ∀ child ∈ (resolver.model site).visits, resolver.Covered registry child) :
    ∀ child ∈ (resolver.model site).visits, child.schema.Declaring := fun child below =>
  settled.declaring distinct (stable_placed resolver site inside child below) (visited child below)

include plain

theorem alike_self : resolver.Alike resolver where
  settings := rfl
  plain := plain
  definitions := Definitions.alike_self fun _ _ _ table inside =>
    distinct.of_values _ (mem_values_of_definition table inside)

end

/-- A site with a claim below which no annotation stands for a property or a requirement. -/
structure Reusable (resolver : Resolver) (registry : Registry) (site : Site) : Prop where
  placed : resolver.Placed site
  covered : resolver.Covered registry site
  legible : ∀ below, Relation.ReflTransGen resolver.Child site below → below.schema.Legible

/-- Any site that may use a name again has a model alike to the one stored under it, and so have all
sites visited for that. -/
theorem Reusable.model (reusable : resolver.Reusable registry site)
    (settled : resolver.Settled registry models) (distinct : resolver.document.Distinct)
    (plain : resolver.settings.overrideKey ≠ "description") : ∃ stored model,
      (resolver.nameOf site, stored) ∈ models ∧ (resolver.model site).outcome = .ok model ∧
      stored.Alike model ∧
      ∀ child ∈ (resolver.model site).visits, resolver.Reusable registry child := by
  obtain ⟨twin, stored, placed, like, named, built, visited⟩ :=
    settled.alike distinct (reusable.placed.distinct distinct) reusable.covered
  have further : ∀ child ∈ (resolver.model site).visits, ∀ below,
      Relation.ReflTransGen resolver.Child child below → below.schema.Legible :=
    fun child inside below steps =>
      reusable.legible below (.head (child_of_mem_visits inside) steps)
  have good := settled.declaring_below distinct placed visited
  have good' : ∀ child ∈ (resolver.model site).visits, child.schema.Declaring := fun child inside =>
    declaring_of_legible (child_of_mem_visits inside).modelled (further child inside child .refl)
  obtain ⟨model, made, alike, twins⟩ := (alike_self distinct plain).model like
    (reusable.legible site .refl) good good' stored built
  refine ⟨stored, model, named, made, alike, fun child inside => ?_⟩
  refine ⟨stable_placed resolver site reusable.placed child inside, ?_, further child inside⟩
  obtain ⟨other, listed, like⟩ := twins child inside
  exact (visited other listed).alike like

theorem Reusable.moved (reusable : resolver.Reusable registry site) (path : String) :
    resolver.Reusable registry ⟨site.schema, site.base, path⟩ where
  placed := reusable.placed
  covered := reusable.covered
  legible below steps := by
    rcases Relation.ReflTransGen.cases_head steps with rfl | ⟨child, step, steps⟩
    · exact reusable.legible site .refl
    · refine reusable.legible below (.head ?_ steps)
      cases step with
      | value declared found => exact .value declared found
      | element declared behind list listing offered found =>
        exact .element declared behind list listing offered found

end Resolver

/-- Walks through sites that may use their names again succeed on every registry with none but known
claims, as long as there is budget. -/
theorem Walk.reuses {resolver : Resolver} {registry : Registry} {models : List (String × Model)}
    (settled : resolver.Settled registry models) (distinct : resolver.document.Distinct)
    (plain : resolver.settings.overrideKey ≠ "description") {budget : Nat} {enclosing : List String}
    {acts : List Act} {progress final : Progress} {outcome : Except Failure Unit}
    (walk : Walk resolver budget enclosing acts progress outcome final)
    (here : ∀ site, Act.visit site ∈ acts → resolver.Reusable registry site)
    (names : progress.registry.names.Nodup)
    (known : ∀ claim ∈ progress.registry.claims, claim ∈ registry.claims)
    (enough : outcome ≠ .error .exhausted) :
    outcome = .ok () ∧ final.registry.names.Nodup ∧
      ∀ claim ∈ final.registry.claims, claim ∈ registry.claims := by
  have below {site : Site} (reusable : resolver.Reusable registry site) :
      ∀ child, Act.visit child ∈ (resolver.model site).acts → resolver.Reusable registry child := by
    obtain ⟨_, _, -, -, -, visited⟩ := reusable.model settled distinct plain
    exact fun child inside => visited child (Script.mem_visits.mpr inside)
  have entered {site : Site} {current next : Registry} (reusable : resolver.Reusable registry site)
      (names : current.names.Nodup) (known : ∀ claim ∈ current.claims, claim ∈ registry.claims)
      (claimed : resolver.claim site current = .ok (true, next)) :
      next.names.Nodup ∧ ∀ claim ∈ next.claims, claim ∈ registry.claims := by
    refine ⟨Registry.nodup_reserve_new claimed names, fun claim inside => ?_⟩
    rcases (Registry.mem_claims_reserve_new claimed).mp inside with inside | rfl
    · exact known claim inside
    · exact reusable.covered
  induction walk with
  | done => exact ⟨rfl, names, known⟩
  | note rest ih => exact ih (fun site inside => here site (.tail _ inside)) names known enough
  | exhausted => exact absurd rfl enough
  | collided refused =>
    -- both claims are claims of the settled registry, where a name has only one
    obtain ⟨other, different, claimed, -⟩ := Registry.reserve_error refused
    have covered := (here _ List.mem_cons_self).covered
    have same := Registry.claims_unique settled.grounded.distinct (known _ claimed) covered
    exact absurd same different
  | reused _ rest ih => exact ih (fun site inside => here site (.tail _ inside)) names known enough
  | failed claimed inner ih =>
    have own := here _ List.mem_cons_self
    obtain ⟨names, known⟩ := entered own names known claimed
    cases (ih (below own) names known enough).1
  | unfinished claimed inner fault ih =>
    obtain ⟨_, _, -, made, -⟩ := (here _ List.mem_cons_self).model settled distinct plain
    cases made.symm.trans fault
  | unstored claimed inner built refused ih =>
    have own := here _ List.mem_cons_self
    obtain ⟨names, known⟩ := entered own names known claimed
    obtain ⟨-, names, -⟩ := ih (below own) names known nofun
    exact absurd refused (inner.stores claimed built names _)
  | stored claimed inner built kept rest ih ihRest =>
    have own := here _ List.mem_cons_self
    obtain ⟨names, known⟩ := entered own names known claimed
    obtain ⟨-, names, known⟩ := ih (below own) names known nofun
    refine ihRest (fun site inside => here site (.tail _ inside)) ?_ ?_ enough
    · rw [Progress.registry_noting, Registry.names_store kept]
      exact names
    · rw [Progress.registry_noting, Registry.claims_store kept]
      exact known

end SchemaCatalog
