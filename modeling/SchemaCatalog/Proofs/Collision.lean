import SchemaCatalog.Proofs.Reordering
import SchemaCatalog.Proofs.Reuse

/-! Collisions of names. Every claim in the registry was made by a site that was reached, so a claim that
is refused was made before by a site of another structure. Main statement: sites of one name
have one structure where a resolution succeeds, and where it fails over a name there are two reached
sites of that name with different structures; sites at the end of references to one definition never
collide.
-/
namespace SchemaCatalog

def Progress.Reached (progress : Progress) (site : Site) : Prop :=
  ∃ calls, .reached site calls ∈ progress.events

theorem Progress.Reached.later {progress later : Progress} {site : Site} (reached : progress.Reached site)
    (suffix : progress.events <:+ later.events) : later.Reached site := by
  obtain ⟨calls, inside⟩ := reached
  exact ⟨calls, suffix.subset inside⟩

namespace Resolver

variable {resolver : Resolver} {world : Site → Prop} {progress progress' : Progress} {site : Site}
  {enclosing : List String} {registry : Registry} {model : Model} {name : String}

/-- Progress where every claim was made by a site that was reached, and only sites of a world were. -/
structure Witnessed (resolver : Resolver) (world : Site → Prop) (progress : Progress) : Prop where
  inside : ∀ site, progress.Reached site → world site
  distinct : progress.registry.names.Nodup
  claimed : ∀ name fingerprint, (name, fingerprint) ∈ progress.registry.claims →
    ∃ site, progress.Reached site ∧ resolver.nameOf site = name ∧
      site.schema.fingerprint = fingerprint

/-- Two sites of one name that were reached, with schemas of different structure. -/
def Clash (resolver : Resolver) (progress : Progress) (name : String) : Prop :=
  ∃ first second, progress.Reached first ∧ progress.Reached second ∧
    resolver.nameOf first = name ∧ resolver.nameOf second = name ∧
    first.schema.fingerprint ≠ second.schema.fingerprint

theorem reached_noting {event : Event} :
    (progress.noting event).Reached site ↔
      (∃ calls, event = .reached site calls) ∨ progress.Reached site := by
  constructor
  · rintro ⟨calls, inside⟩
    rcases List.mem_cons.mp inside with same | inside
    · exact .inl ⟨calls, same.symm⟩
    · exact .inr ⟨calls, inside⟩
  · rintro (⟨calls, rfl⟩ | ⟨calls, inside⟩)
    · exact ⟨calls, List.mem_cons_self⟩
    · exact ⟨calls, List.mem_cons_of_mem _ inside⟩

theorem reached_failing {failure : Failure} :
    (progress.failing failure).Reached site ↔ progress.Reached site := by
  cases failure with
  | problem problem => simp [Progress.failing, reached_noting]
  | _ => rfl

theorem reached_entered (enclosing : List String) (registry : Registry) :
    (resolver.entered site enclosing progress registry).Reached site :=
  ⟨enclosing, .tail _ (.head _)⟩

theorem Witnessed.same (before : resolver.Witnessed world progress)
    (reached : ∀ site, progress'.Reached site ↔ progress.Reached site)
    (claims : progress'.registry.claims = progress.registry.claims) :
    resolver.Witnessed world progress' where
  inside site known := before.inside site ((reached site).mp known)
  distinct := by
    rw [Registry.names_eq_claims, claims, ← Registry.names_eq_claims]
    exact before.distinct
  claimed name fingerprint known := by
    obtain ⟨site, here, equal⟩ := before.claimed name fingerprint (claims ▸ known)
    exact ⟨site, (reached site).mpr here, equal⟩

theorem Witnessed.reach (before : resolver.Witnessed world progress) (here : world site)
    (enclosing : List String) : resolver.Witnessed world (progress.noting (.reached site enclosing)) where
  inside other known := by
    rcases reached_noting.mp known with ⟨calls, same⟩ | known
    · cases same
      exact here
    · exact before.inside other known
  distinct := before.distinct
  claimed name fingerprint known := by
    obtain ⟨other, reached, equal⟩ := before.claimed name fingerprint known
    exact ⟨other, reached_noting.mpr (.inr reached), equal⟩

theorem Witnessed.enter (before : resolver.Witnessed world progress) (here : world site)
    (claimed : resolver.claim site progress.registry = .ok (true, registry)) :
    resolver.Witnessed world (resolver.entered site enclosing progress registry) := by
  have reach := before.reach here enclosing
  have reached (other : Site) : (resolver.entered site enclosing progress registry).Reached other ↔
      (progress.noting (.reached site enclosing)).Reached other := by
    change ((progress.noting (.reached site enclosing)).noting
      (.reserved (resolver.nameOf site))).Reached other ↔ _
    simp [reached_noting]
  constructor
  · exact fun other known => reach.inside other ((reached other).mp known)
  · exact Registry.nodup_reserve_new claimed before.distinct
  · intro name fingerprint known
    rcases (Registry.mem_claims_reserve_new claimed).mp known with known | same
    · obtain ⟨other, inside, equal⟩ := reach.claimed name fingerprint known
      exact ⟨other, (reached other).mpr inside, equal⟩
    · cases same
      exact ⟨site, (reached site).mpr (reached_noting.mpr (.inl ⟨enclosing, rfl⟩)), rfl, rfl⟩

theorem witnessed_started (resolver : Resolver) (world : Site → Prop) :
    resolver.Witnessed world (resolver.started {}) where
  inside := by
    rintro site ⟨calls, inside⟩
    cases List.mem_singleton.mp inside
  distinct := List.nodup_nil
  claimed _ _ known := nomatch known

end Resolver

theorem Failure.OfWalk.not_collision {problem : Problem} (fault : (Failure.problem problem).OfWalk) :
    problem.category ≠ .nameCollision := by
  cases fault with
  | @problem cause details path fault =>
    cases cause with
    | stated category message => cases fault
    | nameTaken name => cases fault
    | _ => exact fun same => nomatch same

namespace Walk

variable {resolver : Resolver} {budget : Nat} {enclosing : List String} {acts : List Act}
  {progress final : Progress} {outcome : Except Failure Unit}

/-- A walk has a witness for every claim, and two that clash where it fails over a name. -/
theorem witnessed (walk : Walk resolver budget enclosing acts progress outcome final)
    {world : Site → Prop} (stable : resolver.Stable world)
    (here : ∀ site, Act.visit site ∈ acts → world site)
    (before : resolver.Witnessed world progress) :
    resolver.Witnessed world final ∧ ∀ problem, outcome = .error (.problem problem) →
      problem.category = .nameCollision →
        ∃ name, problem.cause = .nameTaken name ∧ resolver.Clash final name := by
  have below {site : Site} (here : world site) :
      ∀ child, Act.visit child ∈ (resolver.model site).acts → world child :=
    fun child inside => stable site here child (Script.mem_visits.mpr inside)
  induction walk with
  | done => exact ⟨before, nofun⟩
  | @note _ _ remark _ _ _ _ rest ih =>
    refine ih (fun site inside => here site (.tail _ inside)) (before.same (fun site => ?_) rfl)
    cases remark <;> simp [Resolver.reached_noting, Remark.event]
  | exhausted => exact ⟨before, nofun⟩
  | @collided _ enclosing site _ progress failure refused =>
    have reach := before.reach (here _ List.mem_cons_self) enclosing
    -- the claim in the way was made by a site that was reached before this one
    obtain ⟨other, different, known, rfl⟩ := Registry.reserve_error refused
    obtain ⟨first, reached, named, printed⟩ := reach.claimed _ _ known
    refine ⟨reach.same (fun _ => Resolver.reached_failing) (by simp), ?_⟩
    rintro _ ⟨⟩ -
    refine ⟨_, rfl, first, site, Resolver.reached_failing.mpr reached, ?_, named, rfl, ?_⟩
    · exact Resolver.reached_failing.mpr (Resolver.reached_noting.mpr (.inl ⟨enclosing, rfl⟩))
    · exact printed ▸ different
  | reused known rest ih =>
    exact ih (fun site inside => here site (.tail _ inside))
      (before.reach (here _ List.mem_cons_self) _)
  | failed claimed inner ih =>
    have own := here _ List.mem_cons_self
    exact ih (below own) (before.enter own claimed)
  | unfinished claimed inner fault ih =>
    have own := here _ List.mem_cons_self
    obtain ⟨middle, -⟩ := ih (below own) (before.enter own claimed)
    refine ⟨middle.same (fun _ => Resolver.reached_failing) (by simp), ?_⟩
    rintro problem ⟨⟩ taken
    -- the schema itself is at fault, which is never over a name
    exact absurd taken (Resolver.onlyFaults_model _ _ fault).not_collision
  | unstored claimed inner built refused ih =>
    have own := here _ List.mem_cons_self
    obtain ⟨middle, -⟩ := ih (below own) (before.enter own claimed)
    exact absurd refused (inner.stores claimed built middle.distinct _)
  | stored claimed inner built kept rest ih ihRest =>
    have own := here _ List.mem_cons_self
    obtain ⟨middle, -⟩ := ih (below own) (before.enter own claimed)
    refine ihRest (fun site inside => here site (.tail _ inside)) (middle.same (fun site => ?_) ?_)
    · simp only [Resolver.reached_noting, reduceCtorEq, exists_false, false_or]
      rfl
    · exact Registry.claims_store kept

end Walk

namespace Resolver

variable {resolver : Resolver} {site first second : Site} {name : String}

/-- An object schema with declared properties that is a value of the document. -/
def Located (resolver : Resolver) (site : Site) : Prop :=
  site.schema.IsModelled ∧ site.schema ∈ resolver.document.values

theorem Found.isModelled {raw : Json} {parent key : String} {position : Option Int}
    (found : resolver.Found raw parent key position site) : site.schema.IsModelled := by
  obtain ⟨finding, found, modelled, schema, -⟩ := found
  rw [schema]
  exact isModelled_of_findingOf (inspect_ok.mp found).2 modelled

theorem stable_located (resolver : Resolver) : resolver.Stable resolver.Located := by
  intro site here child inside
  have below := child_of_mem_visits inside
  refine ⟨?_, below.mem_values here.2⟩
  cases below with
  | value declared found => exact found.isModelled
  | element declared behind list listing offered found => exact found.isModelled

theorem located_of_start : ∀ site, Act.visit site ∈ resolver.root.acts → resolver.Located site := by
  intro site inside
  have start := start_of_mem_visits (Script.mem_visits.mpr inside)
  refine ⟨?_, start.mem_values⟩
  cases start with
  | whole found modelled named => exact isModelled_of_findingOf (inspect_ok.mp found).2 modelled
  | element found named listing offered placed => exact placed.isModelled

/-- A site whose schema stands at the end of a chain of references, under the last name of that: the
root, or a site below a parent. -/
inductive LedTo (resolver : Resolver) (name : String) : Site → Prop
  | root {finding base} (found : (resolver.inspect resolver.document "#").outcome = .ok finding)
      (last : finding.reference.name? = some name)
      (named : resolver.settings.rootBase finding.reference.schema finding.reference.name? = .ok base) :
      LedTo resolver name ⟨finding.reference.schema, base, "#"⟩
  | below {finding raw parent key position base path}
      (found : (resolver.inspect raw path).outcome = .ok finding)
      (last : finding.reference.name? = some name)
      (named : resolver.settings.nestedBase finding.reference.schema finding.reference.name? parent
        key position = .ok base) :
      LedTo resolver name ⟨finding.reference.schema, base, path⟩

/-- References to one definition lead to one schema, under one base name. -/
theorem LedTo.schema (led : resolver.LedTo name site) :
    ∃ members own, resolver.definitions = .table members ∧ members.lookup name = some site.schema ∧
      resolver.settings.override? site.schema = .ok own ∧
      site.base = Casing.capitalize (own.getD name) := by
  have behind {raw : Json} {path : String} {finding : Finding}
      (found : (resolver.inspect raw path).outcome = .ok finding)
      (last : finding.reference.name? = some name) : ∃ members,
        resolver.definitions = .table members ∧ members.lookup name = some finding.reference.schema := by
    rcases Definitions.resolve_ok (inspect_ok.mp found).1 with
      ⟨-, unnamed, -⟩ | ⟨members, other, table, known, inside⟩
    · cases unnamed.symm.trans last
    · cases known.symm.trans last
      exact ⟨members, table, inside⟩
  cases led with
  | root found last named =>
    obtain ⟨members, table, inside⟩ := behind found last
    obtain ⟨own, known, rfl⟩ := rootBase_ok.mp named
    refine ⟨members, own, table, inside, known, ?_⟩
    rw [last]
    cases own <;> rfl
  | below found last named =>
    obtain ⟨members, table, inside⟩ := behind found last
    obtain ⟨own, known, rfl⟩ := nestedBase_ok.mp named
    refine ⟨members, own, table, inside, known, ?_⟩
    rw [last]
    cases own <;> rfl

theorem LedTo.same (led : resolver.LedTo name first) (led' : resolver.LedTo name second) :
    first.schema = second.schema ∧ resolver.nameOf first = resolver.nameOf second := by
  obtain ⟨members, own, table, inside, known, based⟩ := led.schema
  obtain ⟨_, _, table', inside', known', based'⟩ := led'.schema
  cases table.symm.trans table'
  have same : first.schema = second.schema := Option.some.inj (inside.symm.trans inside')
  rw [same, known'] at known
  cases known
  exact ⟨same, by rw [nameOf, nameOf, based, based']⟩

theorem clash_of_resolve {problem : Problem} {final : Progress}
    (failed : resolver.resolve.run {} = (.error (.problem problem), final))
    (taken : problem.category = .nameCollision) :
    ∃ name, problem.cause = .nameTaken name ∧ (∀ site, final.Reached site → resolver.Located site) ∧
      resolver.Clash final name := by
  obtain ⟨middle, rfl, walk | ⟨last, -, -, fault | unfrozen⟩⟩ := resolveWithin_error failed
  · obtain ⟨witnessed, clash⟩ := walk.witnessed resolver.stable_located located_of_start
      (witnessed_started resolver _)
    obtain ⟨name, cause, first, second, reached, reached', apart⟩ := clash problem rfl taken
    have ended (site : Site) : (ended middle (.problem problem)).Reached site ↔ middle.Reached site := by
      simp [ended, reached_noting]
    refine ⟨name, cause, fun site known => witnessed.inside site ((ended site).mp known), ?_⟩
    exact ⟨first, second, (ended first).mpr reached, (ended second).mpr reached', apart⟩
  · exact absurd taken (onlyFaults_root _ fault).not_collision
  · rw [Registry.freeze] at unfrozen
    split at unfrozen
    · cases unfrozen
    · cases unfrozen
      cases taken

/-- Reached sites of one name have one structure where a resolution succeeds, and where it fails over a
name there are two of that name with different structures. Sites at the end of references to one
definition have one name, and the second finds it taken by the same schema. -/
theorem collisions_exact (distinct : resolver.document.Distinct) :
    let ran := resolver.resolve.run {}
    (∀ models, ran.1 = .ok models → ∀ first second, ran.2.Reached first → ran.2.Reached second →
      resolver.nameOf first = resolver.nameOf second → first.schema.SameStructure second.schema) ∧
    (∀ problem, ran.1 = .error (.problem problem) → problem.category = .nameCollision →
      ∃ name, problem.cause = .nameTaken name ∧ ∃ first second,
        ran.2.Reached first ∧ ran.2.Reached second ∧
        first.schema.IsModelled ∧ second.schema.IsModelled ∧
        resolver.nameOf first = name ∧ resolver.nameOf second = name ∧
        ¬ first.schema.SameStructure second.schema) ∧
    ∀ definition first second, resolver.LedTo definition first → resolver.LedTo definition second →
      resolver.nameOf first = resolver.nameOf second ∧
      ∀ registry, registry.names.Nodup → resolver.Covered registry first →
        resolver.claim second registry = .ok (false, registry) := by
  refine ⟨fun models ok first second reached reached' same => ?_, fun problem failed taken => ?_,
    fun definition first second led led' => ?_⟩
  · obtain ⟨settled, known⟩ := settled_of_resolve (Prod.ext ok rfl)
    obtain ⟨_, reached⟩ := reached
    obtain ⟨_, reached'⟩ := reached'
    obtain ⟨placed, covered⟩ := known _ _ reached
    obtain ⟨placed', covered'⟩ := known _ _ reached'
    -- both claimed the name, and a name is claimed with one fingerprint
    have printed : first.schema.fingerprint = second.schema.fingerprint :=
      Registry.claims_unique settled.grounded.distinct covered (by rw [same]; exact covered')
    exact (Json.alike_of_fingerprint (distinct.of_values _ placed.2) (distinct.of_values _ placed'.2)
      printed).sameStructure
  · obtain ⟨name, cause, inside, first, second, reached, reached', named, named', different⟩ :=
      clash_of_resolve (Prod.ext failed rfl) taken
    have located := inside first reached
    have located' := inside second reached'
    refine ⟨name, cause, first, second, reached, reached', located.1, located'.1, named, named', ?_⟩
    intro same
    have alike := same.alike (distinct.of_values _ located.2) (distinct.of_values _ located'.2)
    exact different alike.fingerprint
  · obtain ⟨schema, named⟩ := led.same led'
    refine ⟨named, fun registry distinct covered => Registry.reserve_claimed distinct ?_⟩
    rw [← named, ← schema]
    exact covered

def boxSchema (kind : String) : Json := .obj [
  ("nameOverride", .str "box"),
  ("type", .str "object"),
  ("properties", .obj [("content", .obj [("type", .str kind)])])]

/-- Two schemas of one name that differ deep inside. -/
def clashingDocument : Json := .obj [
  ("type", .str "object"),
  ("properties", .obj [("first", boxSchema "string"), ("second", boxSchema "number")])]

def failsOverName {α : Type} : Except Failure α → Bool
  | .error (.problem problem) => decide (problem.category = .nameCollision)
  | _ => false

theorem collisions_exact_boxes : clashingDocument.Distinct ∧
    ∃ resolver : Resolver, resolver = ⟨clashingDocument, {}⟩ ∧
    ∃ problem final, resolver.resolve.run {} = (.error (.problem problem), final) ∧
      ∃ name, problem.cause = .nameTaken name ∧ ∃ first second,
        final.Reached first ∧ final.Reached second ∧
        first.schema.IsModelled ∧ second.schema.IsModelled ∧
        resolver.nameOf first = name ∧ resolver.nameOf second = name ∧
        ¬ first.schema.SameStructure second.schema := by
  have distinct : clashingDocument.Distinct := by
    simp [clashingDocument, boxSchema, Json.Distinct, Json.MembersDistinct]
  have checked : failsOverName ((Resolver.mk clashingDocument {}).resolve.run {}).1 = true := by
    decide +kernel
  refine ⟨distinct, ⟨clashingDocument, {}⟩, rfl, ?_⟩
  have collision := (@collisions_exact ⟨clashingDocument, {}⟩ distinct).2.1
  rcases ran : (Resolver.mk clashingDocument {}).resolve.run {} with ⟨failure | models, final⟩
  · rw [ran] at checked collision
    cases failure with
    | problem problem => exact ⟨problem, final, rfl, collision problem rfl (of_decide_eq_true checked)⟩
    | _ => cases checked
  · rw [ran] at checked
    cases checked

end Resolver

end SchemaCatalog
