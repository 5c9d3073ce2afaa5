import SchemaCatalog.Proofs.Faults
import SchemaCatalog.Proofs.Integrity

/-! Registrations as a stack. The events of a run are all that ever happens to its registry, so a log up
to any point gives the registry at that point and the registrations under way there. Main statement:
at every point of a resolution, up to the failure that it may end with, the names without a model are
those of the registrations under way, innermost last; hence no model lacks its reservation and none is
left unbuilt.
-/
namespace SchemaCatalog

/-- The registry that a log leads to, latest event first, from the last beginning of a resolution. -/
def Registry.ofLog : List Event → Registry
  | [] | .started _ :: _ => {}
  | .reserved name :: .reached site _ :: past =>
    match (ofLog past).reserve name site.schema.fingerprint (some site.path) with
    | .ok (_, registry) => registry
    | .error _ => ofLog past
  | .stored model :: past =>
    match (ofLog past).store model with
    | .ok registry => registry
    | .error _ => ofLog past
  | _ :: past => ofLog past

/-- The registrations under way in a log, innermost first. One begins when it reserves its name, and
whichever began last ends when a model is stored. A resolution is abandoned once its failure has cut
short all of them. -/
def activeCalls : List Event → List String
  | [] | .started _ :: _ | .abandoned _ :: _ => []
  | .reserved name :: past => name :: activeCalls past
  | .stored _ :: past => (activeCalls past).tail
  | _ :: past => activeCalls past

/-- Complaints of a registry about a model to be stored or about models that are missing. A name that
is taken has no place there, unlike where it is claimed for a schema. -/
inductive Failure.OfRegistry : Failure → Prop
  | unreserved {name place details} : OfRegistry (.problem ⟨.modelUnreserved name, place, details⟩)
  | taken {name details} : OfRegistry (.problem ⟨.nameTaken name, none, details⟩)
  | unbuilt {names place details} : OfRegistry (.problem ⟨.modelsUnbuilt names, place, details⟩)

/-- A name whose model is built or being built. -/
def Registry.Knows (registry : Registry) (calls : List String) (name : String) : Prop :=
  (registry.model? name).isSome ∨ name ∈ calls

/-- A log in good order at its latest event. -/
structure Resolver.Disciplined (resolver : Resolver) (log : List Event) : Prop where
  pending : (Registry.ofLog log).pending = (activeCalls log).reverse
  distinct : (activeCalls log).Nodup
  reached : ∀ site enclosing past, log = .reached site enclosing :: past →
    enclosing = activeCalls past
  reserved : ∀ name past, log = .reserved name :: past →
    ∃ site before, past = .reached site (activeCalls past) :: before ∧ resolver.nameOf site = name
  stored : ∀ model past, log = .stored model :: past → ∃ site enclosing,
    activeCalls past = model.name :: enclosing ∧ resolver.nameOf site = model.name ∧
    (resolver.model site).outcome = .ok model ∧
    (∀ child ∈ (resolver.model site).visits,
      (Registry.ofLog past).Knows (activeCalls past) (resolver.nameOf child)) ∧
    ∀ name ∈ model.dependencies,
      (Registry.ofLog past).Knows (activeCalls past) name ∨ ∃ tag : Tag, tag.name = name

/-- A log in good order up to its latest event. Where that abandons the resolution, the order is that
at the failure, with the registrations that it cuts short still under way. -/
def Resolver.Orderly (resolver : Resolver) : List Event → Prop
  | .abandoned _ :: past => resolver.Disciplined past
  | log => resolver.Disciplined log

namespace Resolver

variable {resolver : Resolver} {site : Site} {enclosing : List String} {name : String}
  {base log past : List Event} {registry next : Registry} {model : Model} {event : Event}

/-- Events that change neither the registry nor the registrations under way. -/
def Quiet : Event → Prop
  | .started _ | .reserved _ | .stored _ | .reached _ _ | .abandoned _ => False
  | _ => True

theorem quiet_remark (remark : Remark) : Quiet remark.event := by
  cases remark <;> trivial

/-- A log in good order at every point since its base. -/
def DisciplinedSince (resolver : Resolver) (base log : List Event) : Prop :=
  base <:+ log ∧ ∀ moment, base <:+ moment → moment <:+ log → resolver.Orderly moment

theorem DisciplinedSince.cons (since : resolver.DisciplinedSince base past)
    (now : resolver.Orderly (event :: past)) :
    resolver.DisciplinedSince base (event :: past) := by
  refine ⟨since.1.trans (List.suffix_cons event past), fun moment after before => ?_⟩
  rcases List.suffix_cons_iff.mp before with rfl | before
  · exact now
  · exact since.2 moment after before

theorem disciplined_start (settings : Settings) (past : List Event) :
    resolver.Disciplined (.started settings :: past) where
  pending := rfl
  distinct := List.nodup_nil
  reached := nofun
  reserved := nofun
  stored := nofun

theorem ofLog_quiet (quiet : Quiet event) :
    Registry.ofLog (event :: past) = Registry.ofLog past := by
  cases event with
  | started => cases quiet
  | reserved => cases quiet
  | stored => cases quiet
  | _ => rfl

theorem activeCalls_quiet (quiet : Quiet event) : activeCalls (event :: past) = activeCalls past := by
  cases event with
  | started => cases quiet
  | reserved => cases quiet
  | stored => cases quiet
  | abandoned => cases quiet
  | _ => rfl

theorem Disciplined.quiet (before : resolver.Disciplined past) (quiet : Quiet event) :
    resolver.Disciplined (event :: past) where
  pending := by
    rw [ofLog_quiet quiet, activeCalls_quiet quiet]
    exact before.pending
  distinct := by
    rw [activeCalls_quiet quiet]
    exact before.distinct
  reached := by
    rintro _ _ _ ⟨⟩
    cases quiet
  reserved := by
    rintro _ _ ⟨⟩
    cases quiet
  stored := by
    rintro _ _ ⟨⟩
    cases quiet

theorem orderly_quiet (now : resolver.Disciplined (event :: past)) (quiet : Quiet event) :
    resolver.Orderly (event :: past) := by
  cases event with
  | abandoned => cases quiet
  | _ => exact now

theorem Disciplined.reach (before : resolver.Disciplined past) (site : Site) :
    resolver.Disciplined (.reached site (activeCalls past) :: past) where
  pending := before.pending
  distinct := before.distinct
  reached := by
    rintro _ _ _ ⟨⟩
    rfl
  reserved := nofun
  stored := nofun

theorem ofLog_reserved (claimed : resolver.claim site (Registry.ofLog past) = .ok (true, next)) :
    Registry.ofLog (.reserved (resolver.nameOf site) :: .reached site enclosing :: past) = next := by
  rw [Registry.ofLog]
  change (match resolver.claim site (Registry.ofLog past) with
    | .ok (_, registry) => registry
    | .error _ => Registry.ofLog past) = next
  rw [claimed]

theorem ofLog_stored (kept : (Registry.ofLog past).store model = .ok next) :
    Registry.ofLog (.stored model :: past) = next := by
  rw [Registry.ofLog, kept]

theorem Disciplined.reserve (before : resolver.Disciplined past)
    (claimed : resolver.claim site (Registry.ofLog past) = .ok (true, next)) :
    resolver.Disciplined
      (.reserved (resolver.nameOf site) :: .reached site (activeCalls past) :: past) where
  pending := by
    rw [ofLog_reserved claimed, Registry.pending_reserve_new claimed, before.pending]
    exact List.reverse_cons.symm
  distinct := by
    refine List.nodup_cons.mpr ⟨fun active => ?_, before.distinct⟩
    have waits : resolver.nameOf site ∈ (Registry.ofLog past).pending := by
      rw [before.pending]
      exact List.mem_reverse.mpr active
    exact (Registry.reserve_new claimed).1 (Registry.mem_names_of_pending waits)
  reached := nofun
  reserved := by
    rintro _ _ ⟨⟩
    exact ⟨site, past, rfl, rfl⟩
  stored := nofun

theorem Disciplined.knows (before : resolver.Disciplined log)
    (claimed : name ∈ (Registry.ofLog log).names) :
    (Registry.ofLog log).Knows (activeCalls log) name := by
  rcases Registry.model?_or_pending claimed with built | waits
  · exact .inl built
  · rw [before.pending] at waits
    exact .inr (List.mem_reverse.mp waits)

theorem Disciplined.store (before : resolver.Disciplined past)
    (calls : activeCalls past = resolver.nameOf site :: enclosing)
    (built : (resolver.model site).outcome = .ok model)
    (covered : ∀ child ∈ (resolver.model site).visits, resolver.Covered (Registry.ofLog past) child)
    (kept : (Registry.ofLog past).store model = .ok next) :
    resolver.Disciplined (.stored model :: past) := by
  have named := name_of_model built
  have distinct := before.distinct
  rw [calls] at distinct
  obtain ⟨fresh, others⟩ := List.nodup_cons.mp distinct
  have ended : activeCalls (.stored model :: past) = enclosing := by
    rw [activeCalls, calls, List.tail_cons]
  have visited : ∀ child ∈ (resolver.model site).visits,
      (Registry.ofLog past).Knows (activeCalls past) (resolver.nameOf child) := by
    intro child inside
    exact before.knows (covered child inside).mem_names
  constructor
  · rw [ended, ofLog_stored kept, Registry.pending_store kept, before.pending, calls, named]
    rw [List.reverse_cons, List.filter_append]
    have stays : enclosing.reverse.filter (· ≠ resolver.nameOf site) = enclosing.reverse := by
      apply List.filter_eq_self.mpr
      intro other inside
      refine decide_eq_true fun same => fresh ?_
      exact same ▸ List.mem_reverse.mp inside
    rw [stays]
    simp
  · rw [ended]
    exact others
  · nofun
  · nofun
  · rintro _ _ ⟨⟩
    refine ⟨site, enclosing, named ▸ calls, named.symm, built, visited, fun name depends => ?_⟩
    rcases accounted_of_model built depends with ⟨child, inside, rfl⟩ | tagged
    · exact .inl (visited child inside)
    · exact .inr tagged

/-- Progress whose registry is what its log leads to, with the log in good order since a base. -/
structure Replayed (resolver : Resolver) (base : List Event) (progress : Progress) : Prop where
  since : resolver.DisciplinedSince base progress.events
  now : resolver.Disciplined progress.events
  registry : progress.registry = Registry.ofLog progress.events

theorem Replayed.noting {progress : Progress} (before : resolver.Replayed base progress)
    (quiet : Quiet event) :
    resolver.Replayed base (progress.noting event) ∧
      activeCalls (progress.noting event).events = activeCalls progress.events := by
  have now := before.now.quiet quiet
  have registry := before.registry.trans (ofLog_quiet quiet).symm
  exact ⟨⟨before.since.cons (orderly_quiet now quiet), now, registry⟩, activeCalls_quiet quiet⟩

theorem Replayed.failing {progress : Progress} (before : resolver.Replayed base progress)
    (failure : Failure) : resolver.Replayed base (progress.failing failure) := by
  cases failure with
  | problem problem =>
    have quiet : Quiet (.raised problem) := trivial
    exact (before.noting quiet).1
  | _ => exact before

theorem Replayed.reach {progress : Progress} (before : resolver.Replayed base progress)
    (calls : activeCalls progress.events = enclosing) (site : Site) :
    resolver.Replayed base (progress.noting (.reached site enclosing)) := by
  subst calls
  have now := before.now.reach site
  exact ⟨before.since.cons now, now, before.registry⟩

theorem Replayed.enter {progress : Progress} (before : resolver.Replayed base progress)
    (calls : activeCalls progress.events = enclosing)
    (claimed : resolver.claim site progress.registry = .ok (true, next)) :
    resolver.Replayed base (resolver.entered site enclosing progress next) ∧
      activeCalls (resolver.entered site enclosing progress next).events =
        resolver.nameOf site :: enclosing := by
  rw [before.registry] at claimed
  subst calls
  have now := before.now.reserve claimed
  exact ⟨⟨(before.reach rfl site).since.cons now, now, (ofLog_reserved claimed).symm⟩, rfl⟩

theorem Replayed.store {progress : Progress} (before : resolver.Replayed base progress)
    (calls : activeCalls progress.events = resolver.nameOf site :: enclosing)
    (built : (resolver.model site).outcome = .ok model)
    (covered : ∀ child ∈ (resolver.model site).visits, resolver.Covered progress.registry child)
    (kept : progress.registry.store model = .ok next) :
    resolver.Replayed base ({ progress with registry := next }.noting (.stored model)) ∧
      activeCalls (.stored model :: progress.events) = enclosing := by
  rw [before.registry] at covered kept
  have now := before.now.store calls built covered kept
  refine ⟨⟨before.since.cons now, now, (ofLog_stored kept).symm⟩, ?_⟩
  rw [activeCalls, calls, List.tail_cons]

theorem Replayed.store_succeeds {progress : Progress} (before : resolver.Replayed base progress)
    (grounded : resolver.Grounded Site.Modelled progress.registry)
    (calls : activeCalls progress.events = resolver.nameOf site :: enclosing)
    (built : (resolver.model site).outcome = .ok model) {failure : Failure} :
    progress.registry.store model ≠ .error failure := by
  intro refused
  have named := name_of_model built
  have waits : model.name ∈ progress.registry.pending := by
    rw [before.registry, before.now.pending, calls, named]
    exact List.mem_reverse.mpr List.mem_cons_self
  rw [Registry.store_of_pending grounded.distinct waits] at refused
  cases refused

end Resolver

theorem Failure.OfWalk.not_ofRegistry {failure : Failure} (fault : failure.OfWalk) :
    ¬ failure.OfRegistry := by
  intro complaint
  cases complaint with
  | taken => cases fault
  | unreserved =>
    cases fault with
    | problem _ fault => cases fault
  | unbuilt =>
    cases fault with
    | problem _ fault => cases fault

/-- A walk keeps the log in good order, ends inside the registrations it began in unless it fails, and
fails for no reason of the registry but a name that is claimed twice. -/
theorem Walk.replayed {resolver : Resolver} {budget : Nat} {enclosing : List String}
    {acts : List Act} {progress final : Progress} {outcome : Except Failure Unit}
    (walk : Walk resolver budget enclosing acts progress outcome final) {base : List Event}
    (before : resolver.Replayed base progress) (calls : activeCalls progress.events = enclosing)
    (grounded : resolver.Grounded Site.Modelled progress.registry)
    (modelled : ∀ site, Act.visit site ∈ acts → site.Modelled) :
    resolver.Replayed base final ∧ (outcome = .ok () → activeCalls final.events = enclosing) ∧
      ∀ failure, outcome = .error failure → ¬ failure.OfRegistry := by
  have below {site : Site} : ∀ child, Act.visit child ∈ (resolver.model site).acts →
      child.Modelled := fun child inside =>
    (Resolver.child_of_mem_visits (Script.mem_visits.mpr inside)).modelled
  induction walk with
  | done => exact ⟨before, fun _ => calls, nofun⟩
  | note rest ih =>
    obtain ⟨next, same⟩ := before.noting (Resolver.quiet_remark _)
    exact ih next (same.trans calls) grounded fun site inside => modelled site (.tail _ inside)
  | exhausted =>
    refine ⟨before, nofun, ?_⟩
    rintro _ ⟨⟩
    nofun
  | collided refused =>
    refine ⟨(before.reach calls _).failing _, nofun, ?_⟩
    rintro _ ⟨⟩ complaint
    obtain ⟨_, -, -, rfl⟩ := Registry.reserve_error refused
    cases complaint
  | reused known rest ih =>
    exact ih (before.reach calls _) calls grounded fun site inside => modelled site (.tail _ inside)
  | failed claimed inner ih =>
    obtain ⟨next, same⟩ := before.enter calls claimed
    have here := grounded.claim (modelled _ List.mem_cons_self) claimed
    obtain ⟨last, -, fault⟩ := ih next same here below
    exact ⟨last, nofun, fault⟩
  | unfinished claimed inner fault ih =>
    obtain ⟨next, same⟩ := before.enter calls claimed
    have here := grounded.claim (modelled _ List.mem_cons_self) claimed
    obtain ⟨last, -, -⟩ := ih next same here below
    refine ⟨last.failing _, nofun, ?_⟩
    rintro _ ⟨⟩
    exact (Resolver.onlyFaults_model _ _ fault).not_ofRegistry
  | unstored claimed inner built refused ih =>
    -- the registration under way is that of the model, whose slot waits for it
    obtain ⟨next, same⟩ := before.enter calls claimed
    have here := grounded.claim (modelled _ List.mem_cons_self) claimed
    obtain ⟨last, ended, -⟩ := ih next same here below
    obtain ⟨middle, -⟩ := inner.grounded resolver.stable_modelled here below
    exact absurd refused (last.store_succeeds middle (ended rfl) built)
  | stored claimed inner built kept rest ih ihRest =>
    obtain ⟨next, same⟩ := before.enter calls claimed
    have here := modelled _ List.mem_cons_self
    obtain ⟨last, ended, -⟩ := ih next same (grounded.claim here claimed) below
    have stored := grounded_stored resolver.stable_modelled grounded here claimed inner built kept
    obtain ⟨after, back⟩ := last.store (ended rfl) built
      (fun child inside => inner.covers rfl child (Script.mem_visits.mp inside)) kept
    exact ihRest after back stored fun site inside => modelled site (.tail _ inside)

namespace Resolver

variable {resolver : Resolver} {budget : Nat} {start : Progress}

theorem replayed_root {outcome : Except Failure Unit} {middle : Progress}
    (walk : Walk resolver budget [] resolver.root.acts (resolver.started start) outcome middle) :
    resolver.Replayed (resolver.started start).events middle ∧
      (outcome = .ok () → activeCalls middle.events = []) ∧
      ∀ failure, outcome = .error failure → ¬ failure.OfRegistry := by
  have now : resolver.Disciplined (resolver.started start).events := disciplined_start _ _
  have before : resolver.Replayed (resolver.started start).events (resolver.started start) := by
    refine ⟨⟨List.suffix_rfl, fun moment after upto => ?_⟩, now, rfl⟩
    rw [upto.eq_of_length_le after.length_le]
    exact now
  exact walk.replayed before rfl (grounded_empty resolver _) modelled_of_start

theorem Replayed.ended {base : List Event} {progress : Progress} (before : resolver.Replayed base progress)
    (failure : Failure) : resolver.DisciplinedSince base (ended progress failure).events ∧
      (ended progress failure).registry = Registry.ofLog (ended progress failure).events := by
  cases failure with
  | problem problem => exact ⟨before.since.cons before.now, before.registry⟩
  | _ => exact ⟨before.since, before.registry⟩

/-- At every point of a resolution, however deep it may nest and up to the failure that it may end with,
the names without a model are those of the registrations under way, and what a model depends on is built
or under way when it is stored. The registry never complains about a model, nor about models missing at
the end. -/
theorem registrations_nest (resolver : Resolver) (budget : Nat) (start : Progress) :
    let ran := (resolver.resolveWithin budget).run start
    resolver.DisciplinedSince (resolver.started start).events ran.2.events ∧
      ran.2.registry = Registry.ofLog ran.2.events ∧
      ∀ failure, ran.1 = .error failure → ¬ failure.OfRegistry := by
  rcases ran : (resolver.resolveWithin budget).run start with ⟨failure | models, final⟩
  · obtain ⟨middle, rfl, walk | ⟨last, walk, rfl, fault⟩⟩ := resolveWithin_error ran
    · obtain ⟨replayed, -, fault⟩ := replayed_root walk
      obtain ⟨since, registry⟩ := replayed.ended failure
      refine ⟨since, registry, ?_⟩
      rintro _ ⟨⟩
      exact fault failure rfl
    · obtain ⟨replayed, calls, -⟩ := replayed_root walk
      obtain ⟨since, registry⟩ := (replayed.failing failure).ended failure
      refine ⟨since, registry, ?_⟩
      rintro _ ⟨⟩
      rcases fault with fault | unfrozen
      · exact (onlyFaults_root failure fault).not_ofRegistry
      · have none_waits : last.registry.pending = [] := by
          rw [replayed.registry, replayed.now.pending, calls rfl]
          rfl
        obtain ⟨models, frozen⟩ := Registry.freeze_of_pending none_waits
        cases frozen.symm.trans unfrozen
  · obtain ⟨middle, walk, -, -, rfl⟩ := resolveWithin_ok.mp ran
    obtain ⟨replayed, -⟩ := replayed_root walk
    have quiet : Quiet (.finished models.length) := trivial
    have finished := (replayed.noting quiet).1
    exact ⟨finished.since, finished.registry, nofun⟩

end Resolver

end SchemaCatalog
