import SchemaCatalog.Proofs.Registry
import SchemaCatalog.Resolver

/-! Walks: what the registration of models does to a run, as a relation. Each rule is one thing that can
happen at the next act of a script, so an induction on a walk has one case for each of them. Main
statements: there is a walk through any acts, and playing these with `register` comes to what it comes
to, so there is only one.
-/
namespace SchemaCatalog

theorem Progress.events_failing (progress : Progress) (failure : Failure) :
    progress.events <:+ (progress.failing failure).events := by
  cases failure with
  | problem problem => exact List.suffix_cons _ _
  | _ => exact List.suffix_rfl

namespace Resolver

def nameOf (resolver : Resolver) (site : Site) : String := resolver.settings.modelName site.base

/-- The claim that a site makes to its name. -/
def claim (resolver : Resolver) (site : Site) (registry : Registry) :
    Except Failure (Bool × Registry) :=
  registry.reserve (resolver.nameOf site) site.schema.fingerprint (some site.path)

def entered (resolver : Resolver) (site : Site) (enclosing : List String) (progress : Progress)
    (registry : Registry) : Progress :=
  ⟨registry, .reserved (resolver.nameOf site) :: .reached site enclosing :: progress.events⟩

end Resolver

/-- Acts played inside enclosing models, innermost first, with a budget of levels below them. -/
inductive Walk (resolver : Resolver) :
    Nat → List String → List Act → Progress → Except Failure Unit → Progress → Prop
  | done {budget enclosing progress} : Walk resolver budget enclosing [] progress (.ok ()) progress
  | note {budget enclosing remark acts progress outcome final}
      (rest : Walk resolver budget enclosing acts (progress.noting remark.event) outcome final) :
      Walk resolver budget enclosing (.note remark :: acts) progress outcome final
  | exhausted {enclosing site acts progress} :
      Walk resolver 0 enclosing (.visit site :: acts) progress (.error .exhausted) progress
  | collided {budget enclosing site acts progress failure}
      (refused : resolver.claim site progress.registry = .error failure) :
      Walk resolver (budget + 1) enclosing (.visit site :: acts) progress (.error failure)
        ((progress.noting (.reached site enclosing)).failing failure)
  | reused {budget enclosing site acts progress registry outcome final}
      (known : resolver.claim site progress.registry = .ok (false, registry))
      (rest : Walk resolver (budget + 1) enclosing acts
        (progress.noting (.reached site enclosing)) outcome final) :
      Walk resolver (budget + 1) enclosing (.visit site :: acts) progress outcome final
  | failed {budget enclosing site acts progress registry failure final}
      (claimed : resolver.claim site progress.registry = .ok (true, registry))
      (inner : Walk resolver budget (resolver.nameOf site :: enclosing) (resolver.model site).acts
        (resolver.entered site enclosing progress registry) (.error failure) final) :
      Walk resolver (budget + 1) enclosing (.visit site :: acts) progress (.error failure) final
  | unfinished {budget enclosing site acts progress registry failure middle}
      (claimed : resolver.claim site progress.registry = .ok (true, registry))
      (inner : Walk resolver budget (resolver.nameOf site :: enclosing) (resolver.model site).acts
        (resolver.entered site enclosing progress registry) (.ok ()) middle)
      (fault : (resolver.model site).outcome = .error failure) :
      Walk resolver (budget + 1) enclosing (.visit site :: acts) progress (.error failure)
        (middle.failing failure)
  | unstored {budget enclosing site acts progress registry model failure middle}
      (claimed : resolver.claim site progress.registry = .ok (true, registry))
      (inner : Walk resolver budget (resolver.nameOf site :: enclosing) (resolver.model site).acts
        (resolver.entered site enclosing progress registry) (.ok ()) middle)
      (built : (resolver.model site).outcome = .ok model)
      (refused : middle.registry.store model = .error failure) :
      Walk resolver (budget + 1) enclosing (.visit site :: acts) progress (.error failure)
        (middle.failing failure)
  | stored {budget enclosing site acts progress registry model middle next outcome final}
      (claimed : resolver.claim site progress.registry = .ok (true, registry))
      (inner : Walk resolver budget (resolver.nameOf site :: enclosing) (resolver.model site).acts
        (resolver.entered site enclosing progress registry) (.ok ()) middle)
      (built : (resolver.model site).outcome = .ok model)
      (kept : middle.registry.store model = .ok next)
      (rest : Walk resolver (budget + 1) enclosing acts
        ({ middle with registry := next }.noting (.stored model)) outcome final) :
      Walk resolver (budget + 1) enclosing (.visit site :: acts) progress outcome final

namespace Walk

variable {resolver : Resolver} {budget : Nat} {enclosing : List String} {site : Site}
  {acts : List Act} {progress middle after final : Progress} {registry next : Registry}
  {model : Model} {failure : Failure} {outcome : Except Failure Unit}

def played (resolver : Resolver) (budget : Nat) (enclosing : List String) (acts : List Act) :
    Run Unit :=
  acts.forM (Act.play (resolver.register budget enclosing))

theorem played_note (remark : Remark) :
    (played resolver budget enclosing (.note remark :: acts)).run progress =
      (played resolver budget enclosing acts).run (progress.noting remark.event) :=
  Run.run_bind_of_ok (Run.run_note remark.event) _

theorem played_visit
    (ok : (resolver.register budget enclosing site).run progress = (.ok (), after)) :
    (played resolver budget enclosing (.visit site :: acts)).run progress =
      (played resolver budget enclosing acts).run after :=
  Run.run_bind_of_ok ok _

theorem played_visit_of_error
    (failed : (resolver.register budget enclosing site).run progress = (.error failure, after)) :
    (played resolver budget enclosing (.visit site :: acts)).run progress =
      (.error failure, after) :=
  Run.run_bind_of_error failed _

theorem register_of_refused (refused : resolver.claim site progress.registry = .error failure) :
    (resolver.register (budget + 1) enclosing site).run progress =
      (.error failure, (progress.noting (.reached site enclosing)).failing failure) := by
  have refused : (progress.noting (.reached site enclosing)).registry.reserve
      (resolver.settings.modelName site.base) site.schema.fingerprint (some site.path) =
      .error failure := refused
  rw [Resolver.register]
  refine (Run.run_bind_of_ok (Run.run_note _) _).trans ?_
  exact Run.run_bind_of_error (Run.run_reserve_error refused) _

theorem register_of_known (known : resolver.claim site progress.registry = .ok (false, registry)) :
    (resolver.register (budget + 1) enclosing site).run progress =
      (.ok (), progress.noting (.reached site enclosing)) := by
  have same := (Registry.reserve_known known).1
  subst same
  have known : (progress.noting (.reached site enclosing)).registry.reserve
      (resolver.settings.modelName site.base) site.schema.fingerprint (some site.path) =
      .ok (false, progress.registry) := known
  rw [Resolver.register]
  refine (Run.run_bind_of_ok (Run.run_note _) _).trans ?_
  exact Run.run_bind_of_ok (Run.run_reserve_known known) _

theorem register_of_claimed
    (claimed : resolver.claim site progress.registry = .ok (true, registry)) :
    (resolver.register (budget + 1) enclosing site).run progress =
      (((do
        played resolver budget (resolver.nameOf site :: enclosing) (resolver.model site).acts
        Run.attempt (resolver.model site).outcome) : Run Model) >>= Run.store).run
        (resolver.entered site enclosing progress registry) := by
  have claimed : (progress.noting (.reached site enclosing)).registry.reserve
      (resolver.settings.modelName site.base) site.schema.fingerprint (some site.path) =
      .ok (true, registry) := claimed
  rw [Resolver.register]
  refine (Run.run_bind_of_ok (Run.run_note _) _).trans ?_
  exact Run.run_bind_of_ok (Run.run_reserve_new claimed) _

theorem played_eq (walk : Walk resolver budget enclosing acts progress outcome final) :
    (played resolver budget enclosing acts).run progress = (outcome, final) := by
  induction walk with
  | done => rfl
  | note _ ih => exact (played_note _).trans ih
  | exhausted => exact played_visit_of_error Run.run_fail
  | collided refused => exact played_visit_of_error (register_of_refused refused)
  | reused known _ ih => exact (played_visit (register_of_known known)).trans ih
  | failed claimed _ ih =>
    refine played_visit_of_error ((register_of_claimed claimed).trans ?_)
    exact Run.run_bind_of_error (Run.run_bind_of_error ih _) _
  | unfinished claimed _ fault ih =>
    refine played_visit_of_error ((register_of_claimed claimed).trans ?_)
    refine Run.run_bind_of_error ?_ _
    exact (Run.run_bind_of_ok ih _).trans (Run.run_attempt_of_error fault)
  | unstored claimed _ built refused ih =>
    refine played_visit_of_error ((register_of_claimed claimed).trans ?_)
    refine (Run.run_bind_of_ok ?_ _).trans (Run.run_store_error refused)
    exact (Run.run_bind_of_ok ih _).trans (Run.run_attempt_of_ok built)
  | stored claimed _ built kept _ ih ihRest =>
    refine (played_visit ((register_of_claimed claimed).trans ?_)).trans ihRest
    refine (Run.run_bind_of_ok ?_ _).trans (Run.run_store_ok kept)
    exact (Run.run_bind_of_ok ih _).trans (Run.run_attempt_of_ok built)

theorem unique {other : Except Failure Unit}
    (walk : Walk resolver budget enclosing acts progress outcome final)
    (walk' : Walk resolver budget enclosing acts progress other after) :
    outcome = other ∧ final = after :=
  Prod.mk.inj ((played_eq walk).symm.trans (played_eq walk'))

theorem exists_walk (resolver : Resolver) (budget : Nat) (enclosing : List String)
    (acts : List Act) (progress : Progress) :
    ∃ outcome final, Walk resolver budget enclosing acts progress outcome final := by
  induction budget generalizing enclosing acts progress with
  | zero =>
    induction acts generalizing progress with
    | nil => exact ⟨_, _, .done⟩
    | cons act acts ih =>
      cases act with
      | note remark =>
        obtain ⟨outcome, final, rest⟩ := ih (progress.noting remark.event)
        exact ⟨outcome, final, .note rest⟩
      | visit site => exact ⟨_, _, .exhausted⟩
  | succ budget below =>
    induction acts generalizing progress with
    | nil => exact ⟨_, _, .done⟩
    | cons act acts ih =>
      cases act with
      | note remark =>
        obtain ⟨outcome, final, rest⟩ := ih (progress.noting remark.event)
        exact ⟨outcome, final, .note rest⟩
      | visit site =>
        rcases claim : resolver.claim site progress.registry with failure | ⟨_ | _, registry⟩
        · exact ⟨_, _, .collided claim⟩
        · obtain ⟨outcome, final, rest⟩ := ih (progress.noting (.reached site enclosing))
          exact ⟨outcome, final, .reused claim rest⟩
        · obtain ⟨inside, middle, inner⟩ := below (resolver.nameOf site :: enclosing)
            (resolver.model site).acts (resolver.entered site enclosing progress registry)
          rcases inside with failure | ⟨⟩
          · exact ⟨_, _, .failed claim inner⟩
          cases built : (resolver.model site).outcome with
          | error failure => exact ⟨_, _, .unfinished claim inner built⟩
          | ok model =>
            cases kept : middle.registry.store model with
            | error failure => exact ⟨_, _, .unstored claim inner built kept⟩
            | ok next =>
              obtain ⟨outcome, final, rest⟩ :=
                ih ({ middle with registry := next }.noting (.stored model))
              exact ⟨outcome, final, .stored claim inner built kept rest⟩

theorem play_of_error {α : Type} {script : Script α}
    (walk : Walk resolver budget enclosing script.acts progress (.error failure) final) :
    (script.play (resolver.register budget enclosing)).run progress = (.error failure, final) :=
  Run.run_bind_of_error (played_eq walk) _

theorem play_of_ok {α : Type} {script : Script α}
    (walk : Walk resolver budget enclosing script.acts progress (.ok ()) final) :
    (script.play (resolver.register budget enclosing)).run progress =
      (Run.attempt script.outcome).run final :=
  Run.run_bind_of_ok (played_eq walk) _

theorem play_ok {α : Type} {script : Script α} {value : α} :
    (script.play (resolver.register budget enclosing)).run progress = (.ok value, final) ↔
      Walk resolver budget enclosing script.acts progress (.ok ()) final ∧
        script.outcome = .ok value := by
  constructor
  · intro equal
    obtain ⟨inside, middle, walk⟩ := exists_walk resolver budget enclosing script.acts progress
    rcases inside with failure | ⟨⟩
    · cases (play_of_error walk).symm.trans equal
    rw [play_of_ok walk] at equal
    cases ended : script.outcome with
    | error failure => cases (Run.run_attempt_of_error ended).symm.trans equal
    | ok result =>
      cases (Run.run_attempt_of_ok ended).symm.trans equal
      exact ⟨walk, rfl⟩
  · rintro ⟨walk, ended⟩
    exact (play_of_ok walk).trans (Run.run_attempt_of_ok ended)

theorem play_error {α : Type} {script : Script α}
    (failed : (script.play (resolver.register budget enclosing)).run progress =
      (.error failure, final)) :
    Walk resolver budget enclosing script.acts progress (.error failure) final ∨
      ∃ middle, Walk resolver budget enclosing script.acts progress (.ok ()) middle ∧
        script.outcome = .error failure ∧ final = middle.failing failure := by
  obtain ⟨inside, middle, walk⟩ := exists_walk resolver budget enclosing script.acts progress
  rcases inside with other | ⟨⟩
  · cases (play_of_error walk).symm.trans failed
    exact .inl walk
  rw [play_of_ok walk] at failed
  cases fault : script.outcome with
  | error other =>
    cases (Run.run_attempt_of_error fault).symm.trans failed
    exact .inr ⟨middle, walk, rfl, rfl⟩
  | ok value => cases (Run.run_attempt_of_ok fault).symm.trans failed

theorem events_suffix (walk : Walk resolver budget enclosing acts progress outcome final) :
    progress.events <:+ final.events := by
  induction walk with
  | done => exact List.suffix_rfl
  | note _ ih => exact (List.suffix_cons _ _).trans ih
  | exhausted => exact List.suffix_rfl
  | @collided _ enclosing site _ progress failure =>
    have noted := progress.noting (.reached site enclosing) |>.events_failing failure
    exact (List.suffix_cons _ _).trans noted
  | reused _ _ ih => exact (List.suffix_cons _ _).trans ih
  | failed _ _ ih => exact (List.suffix_append [_, _] _).trans ih
  | unfinished _ _ _ ih =>
    exact ((List.suffix_append [_, _] _).trans ih).trans (Progress.events_failing _ _)
  | unstored _ _ _ _ ih =>
    exact ((List.suffix_append [_, _] _).trans ih).trans (Progress.events_failing _ _)
  | stored _ _ _ _ _ ih ihRest =>
    exact ((List.suffix_append [_, _] _).trans ih).trans ((List.suffix_cons _ _).trans ihRest)

end Walk

namespace Resolver

variable {resolver : Resolver} {budget : Nat} {start final : Progress} {failure : Failure}
  {models : List (String × Model)}

def started (resolver : Resolver) (start : Progress) : Progress :=
  ⟨{}, .started resolver.settings :: start.events⟩

def ended (progress : Progress) : Failure → Progress
  | .problem problem => progress.noting (.abandoned problem)
  | _ => progress

theorem resolveWithin_of_ok {after : Progress}
    (ok : (do resolver.root.play (resolver.register budget []); Run.freeze : Run _).run
      (resolver.started start) = (.ok models, after)) :
    (resolver.resolveWithin budget).run start =
      (.ok models, after.noting (.finished models.length)) := by
  unfold resolveWithin
  refine (Run.run_bind_of_ok rfl _).trans ?_
  refine (Run.run_bind_of_ok (Run.run_note _) _).trans ?_
  refine (Run.run_bind_of_ok (Run.run_tryCatch_of_ok ok _) _).trans ?_
  rfl

theorem resolveWithin_of_error {after : Progress}
    (failed : (do resolver.root.play (resolver.register budget []); Run.freeze : Run _).run
      (resolver.started start) = (.error failure, after)) :
    (resolver.resolveWithin budget).run start = (.error failure, ended after failure) := by
  unfold resolveWithin
  refine (Run.run_bind_of_ok rfl _).trans ?_
  refine (Run.run_bind_of_ok (Run.run_note _) _).trans ?_
  refine Run.run_bind_of_error ?_ _
  refine (Run.run_tryCatch_of_error failed _).trans ?_
  cases failure <;> rfl

/-- A resolution succeeds where the root can be walked and every name claimed has got its model. -/
theorem resolveWithin_ok :
    (resolver.resolveWithin budget).run start = (.ok models, final) ↔
      ∃ middle, Walk resolver budget [] resolver.root.acts (resolver.started start) (.ok ()) middle ∧
        resolver.root.outcome = .ok () ∧ middle.registry.freeze = .ok models ∧
        final = middle.noting (.finished models.length) := by
  constructor
  · intro equal
    rcases ran : (do resolver.root.play (resolver.register budget []); Run.freeze : Run _).run
      (resolver.started start) with ⟨failure | others, after⟩
    · cases (resolveWithin_of_error ran).symm.trans equal
    cases (resolveWithin_of_ok ran).symm.trans equal
    rcases played : (resolver.root.play (resolver.register budget [])).run
      (resolver.started start) with ⟨failure | ⟨⟩, middle⟩
    · cases (Run.run_bind_of_error played _).symm.trans ran
    have frozen := (Run.run_bind_of_ok played fun _ => Run.freeze).symm.trans ran
    rw [Run.run_freeze] at frozen
    cases ended : middle.registry.freeze with
    | error failure => cases (Run.run_attempt_of_error ended).symm.trans frozen
    | ok found =>
      cases (Run.run_attempt_of_ok ended).symm.trans frozen
      obtain ⟨walk, outcome⟩ := Walk.play_ok.mp played
      exact ⟨_, walk, outcome, ended, rfl⟩
  · rintro ⟨middle, walk, outcome, frozen, rfl⟩
    apply resolveWithin_of_ok
    refine (Run.run_bind_of_ok (Walk.play_ok.mpr ⟨walk, outcome⟩) _).trans ?_
    rw [Run.run_freeze]
    exact Run.run_attempt_of_ok frozen

theorem resolveWithin_error
    (failed : (resolver.resolveWithin budget).run start = (.error failure, final)) :
    ∃ middle, final = ended middle failure ∧
      (Walk resolver budget [] resolver.root.acts (resolver.started start) (.error failure) middle ∨
        ∃ last, Walk resolver budget [] resolver.root.acts (resolver.started start) (.ok ()) last ∧
          middle = last.failing failure ∧
          (resolver.root.outcome = .error failure ∨ last.registry.freeze = .error failure)) := by
  rcases ran : (do resolver.root.play (resolver.register budget []); Run.freeze : Run _).run
    (resolver.started start) with ⟨other | models, after⟩
  · cases (resolveWithin_of_error ran).symm.trans failed
    refine ⟨after, rfl, ?_⟩
    rcases played : (resolver.root.play (resolver.register budget [])).run
      (resolver.started start) with ⟨stopped | ⟨⟩, middle⟩
    · cases (Run.run_bind_of_error played _).symm.trans ran
      rcases Walk.play_error played with walk | ⟨last, walk, outcome, rfl⟩
      · exact .inl walk
      · exact .inr ⟨last, walk, rfl, .inl outcome⟩
    have frozen := (Run.run_bind_of_ok played fun _ => Run.freeze).symm.trans ran
    rw [Run.run_freeze] at frozen
    obtain ⟨walk, -⟩ := Walk.play_ok.mp played
    cases ended : middle.registry.freeze with
    | error stopped =>
      cases (Run.run_attempt_of_error ended).symm.trans frozen
      exact .inr ⟨middle, walk, rfl, .inr ended⟩
    | ok found => cases (Run.run_attempt_of_ok ended).symm.trans frozen
  · cases (resolveWithin_of_ok ran).symm.trans failed

theorem resolveWithin_congr {more : Nat}
    (same : (Walk.played resolver budget [] resolver.root.acts).run (resolver.started start) =
      (Walk.played resolver more [] resolver.root.acts).run (resolver.started start)) :
    (resolver.resolveWithin budget).run start = (resolver.resolveWithin more).run start := by
  have inner : (do resolver.root.play (resolver.register budget []); Run.freeze : Run _).run
      (resolver.started start) =
      (do resolver.root.play (resolver.register more []); Run.freeze : Run _).run
        (resolver.started start) :=
    Run.run_bind_congr (Run.run_bind_congr same _) _
  rcases ran : (do resolver.root.play (resolver.register more []); Run.freeze : Run _).run
    (resolver.started start) with ⟨failure | models, after⟩
  · rw [resolveWithin_of_error ran, resolveWithin_of_error (inner.trans ran)]
  · rw [resolveWithin_of_ok ran, resolveWithin_of_ok (inner.trans ran)]

end Resolver

end SchemaCatalog
