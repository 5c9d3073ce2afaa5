import SchemaCatalog.Proofs.Collision
import SchemaCatalog.Proofs.History

/-! How resolutions fail. Every failure says something about the document: there is a problem with a
schema or with two schemas of one name, some name comes out empty, or the definitions are of a kind
that no name can be looked up in. Main statement: nothing else comes out of a resolution that ends,
and only a problem is announced in the log.
-/
namespace SchemaCatalog

/-- A resolution is announced to have failed. -/
def LogLine.isNotice : LogLine → Bool
  | .message .error _ => true
  | _ => false

namespace Progress

variable {progress : Progress}

def notices (progress : Progress) : List LogLine := progress.log.filter LogLine.isNotice

theorem log_noting (event : Event) :
    (progress.noting event).log = progress.log ++ event.line?.toList := by
  rw [log, noting, List.reverse_cons, List.filterMap_append, log]
  cases line : event.line? <;> simp [line]

theorem notices_abandoned (problem : Problem) :
    (progress.noting (.abandoned problem)).notices =
      progress.notices ++ [.message .error ("Schema resolution failed: " ++ problem.message)] := by
  rw [notices, log_noting, List.filter_append]
  rfl

theorem notices_noting {event : Event} (other : ∀ problem, event ≠ .abandoned problem) :
    (progress.noting event).notices = progress.notices := by
  have silent : event.line?.toList.filter LogLine.isNotice = [] := by
    cases event with
    | abandoned problem => exact absurd rfl (other problem)
    | followed chain =>
      rw [Event.line?]
      split <;> rfl
    | raised problem =>
      rw [Event.line?]
      split
      · split <;> rfl
      · rfl
    | _ => rfl
  rw [notices, log_noting, List.filter_append, silent, List.append_nil, notices]

theorem notices_failing (failure : Failure) : (progress.failing failure).notices = progress.notices := by
  cases failure with
  | problem problem => exact notices_noting fun _ => nofun
  | _ => rfl

end Progress

namespace Resolver

variable {resolver : Resolver} {site : Site} {progress : Progress} {failure : Failure}

/-- What the failure of a resolution says about its document and the sites that it reached. -/
def Explained (resolver : Resolver) (progress : Progress) : Failure → Prop
  | .problem problem => problem.category.isResolution = true ∧ problem.category ≠ .resolution
  | .rejected rejection => Failure.rejected rejection = .nameless rejection.subject ∧
      ∃ site, progress.Reached site ∧
        ((rejection.subject = .property ∧ ∃ key entry, site.schema.Declares key entry ∧
            resolver.settings.propertyName key entry = .ok "") ∨
          (rejection.subject = .model ∧ resolver.nameOf site = ""))
  | .misuse misuse => misuse ∈ [.unsearchable, .unindexable, .unsortable] ∧
      ∃ value, resolver.document.member? "definitions" = .ok (some value) ∧
        value.isEmpty = false ∧ value.isObject = false
  | .fileMissing _ | .exhausted => False

theorem definitions_other {value : Json} {kind : value.isObject = false}
    (other : resolver.definitions = .other value kind) :
    resolver.document.member? "definitions" = .ok (some value) ∧ value.isEmpty = false := by
  rcases resolver.definitions_cases with none | ⟨_, looked, full, same⟩
  · cases other.symm.trans none
  · rw [other] at same
    subst same
    exact ⟨looked, full⟩

theorem explained_of_schema (fault : failure.OfSchema resolver.definitions) :
    resolver.Explained progress failure := by
  cases fault with
  | @problem cause details path fault =>
    cases cause with
    | stated category message => cases fault
    | definitionNotObject => cases fault
    | modelUnreserved => cases fault
    | modelsUnbuilt => cases fault
    | settingsUnreadable => cases fault
    | settingsNotMapping => cases fault
    | settingsInvalid => cases fault
    | _ => exact ⟨rfl, nofun⟩
  | @misuse _ value kind among other =>
    obtain ⟨known, nonempty⟩ := definitions_other other
    exact ⟨among, value, known, nonempty, kind⟩

theorem explained_of_model (reached : progress.Reached site) (fault : failure.OfModel resolver site) :
    resolver.Explained progress failure := by
  cases fault with
  | schema fault => exact explained_of_schema fault
  | property declared fault =>
    cases fault with
    | schema fault => exact explained_of_schema fault
    | nameless empty => exact ⟨rfl, site, reached, .inl ⟨rfl, _, _, declared, empty⟩⟩
  | nameless empty => exact ⟨rfl, site, reached, .inr ⟨rfl, empty⟩⟩

theorem explained_of_claim {registry : Registry}
    (refused : resolver.claim site registry = .error failure) : resolver.Explained progress failure := by
  obtain ⟨_, -, -, rfl⟩ := Registry.reserve_error refused
  exact ⟨rfl, nofun⟩

theorem Explained.later {later : Progress} (explained : resolver.Explained progress failure)
    (suffix : progress.events <:+ later.events) : resolver.Explained later failure := by
  cases failure with
  | rejected rejection =>
    obtain ⟨nameless, site, reached, empty⟩ := explained
    exact ⟨nameless, site, reached.later suffix, empty⟩
  | _ => exact explained

end Resolver

namespace Walk

variable {resolver : Resolver} {budget : Nat} {enclosing : List String} {acts : List Act}
  {progress final : Progress} {outcome : Except Failure Unit}

theorem notices (walk : Walk resolver budget enclosing acts progress outcome final) :
    final.notices = progress.notices := by
  have entered {site : Site} {enclosing : List String} {progress : Progress} (registry : Registry) :
      (resolver.entered site enclosing progress registry).notices = progress.notices :=
    calc _ = ((progress.noting (.reached site enclosing)).noting
          (.reserved (resolver.nameOf site))).notices := rfl
      _ = (progress.noting (.reached site enclosing)).notices := Progress.notices_noting fun _ => nofun
      _ = progress.notices := Progress.notices_noting fun _ => nofun
  induction walk with
  | done => rfl
  | @note _ _ remark _ _ _ _ _ ih =>
    refine ih.trans (Progress.notices_noting fun problem same => ?_)
    cases remark <;> cases same
  | exhausted => rfl
  | collided => exact (Progress.notices_failing _).trans (Progress.notices_noting fun _ => nofun)
  | reused _ _ ih => exact ih.trans (Progress.notices_noting fun _ => nofun)
  | failed _ _ ih => exact ih.trans (entered _)
  | unfinished _ _ _ ih => exact (Progress.notices_failing _).trans (ih.trans (entered _))
  | unstored _ _ _ _ ih => exact (Progress.notices_failing _).trans (ih.trans (entered _))
  | stored _ _ _ _ _ ih ihRest =>
    refine (ihRest.trans ?_).trans (ih.trans (entered _))
    exact Progress.notices_noting fun _ => nofun

/-- The failure of a walk is explained by the sites that were reached, unless the budget ran out. -/
theorem explained (walk : Walk resolver budget enclosing acts progress outcome final)
    (grounded : resolver.Grounded Site.Modelled progress.registry)
    (modelled : ∀ site, Act.visit site ∈ acts → site.Modelled) {failure : Failure}
    (failed : outcome = .error failure) (enough : failure ≠ .exhausted) :
    resolver.Explained final failure := by
  have below {site : Site} : ∀ child, Act.visit child ∈ (resolver.model site).acts →
      child.Modelled := fun child inside =>
    (Resolver.child_of_mem_visits (Script.mem_visits.mpr inside)).modelled
  induction walk with
  | done => cases failed
  | note _ ih => exact ih grounded (fun site inside => modelled site (.tail _ inside)) failed
  | exhausted =>
    cases failed
    exact absurd rfl enough
  | collided refused =>
    cases failed
    exact Resolver.explained_of_claim refused
  | reused _ _ ih => exact ih grounded (fun site inside => modelled site (.tail _ inside)) failed
  | failed claimed _ ih =>
    exact ih (grounded.claim (modelled _ List.mem_cons_self) claimed) below failed
  | @unfinished _ enclosing site _ _ _ _ _ claimed inner fault ih =>
    cases failed
    obtain ⟨entries, -, declared⟩ := modelled site List.mem_cons_self
    have reached := (Resolver.reached_entered enclosing _).later
      (inner.events_suffix.trans (Progress.events_failing _ failure))
    exact Resolver.explained_of_model reached (Resolver.onlyFails_model declared _ fault)
  | unstored claimed inner built refused ih =>
    have start := grounded.claim (modelled _ List.mem_cons_self) claimed
    obtain ⟨middle, -⟩ := inner.grounded resolver.stable_modelled start below
    exact absurd refused (inner.stores claimed built middle.distinct _)
  | stored claimed inner built kept rest ih ihRest =>
    have own := modelled _ List.mem_cons_self
    have next := grounded_stored resolver.stable_modelled grounded own claimed inner built kept
    exact ihRest next (fun site inside => modelled site (.tail _ inside)) failed

end Walk

namespace Resolver

variable {resolver : Resolver} {budget : Nat} {failure : Failure} {final : Progress}

theorem notices_started (resolver : Resolver) : (resolver.started {}).notices = [] := rfl

/-- What precedes the announcement, if there is one, is silent and explains the failure. -/
theorem explained_of_error (object : resolver.document.isObject = true)
    (failed : (resolver.resolveWithin budget).run {} = (.error failure, final)) :
    ∃ middle, final = ended middle failure ∧ middle.notices = [] ∧
      (failure ≠ .exhausted → resolver.Explained middle failure) := by
  obtain ⟨middle, rfl, walk | ⟨last, walk, rfl, fault⟩⟩ := resolveWithin_error failed
  · refine ⟨middle, rfl, walk.notices.trans resolver.notices_started, fun enough => ?_⟩
    exact walk.explained (grounded_empty resolver _) modelled_of_start rfl enough
  · have silent := walk.notices.trans resolver.notices_started
    refine ⟨_, rfl, (Progress.notices_failing _).trans silent, fun _ => ?_⟩
    rcases fault with fault | unfrozen
    · exact explained_of_schema (onlyFails_root object failure fault)
    · obtain ⟨models, frozen⟩ := Registry.freeze_of_pending (walk.pending_of_ok rfl)
      cases frozen.symm.trans unfrozen

/-- A resolution that is not cut off ends with models or with a failure that its document explains, and
it is announced to have failed exactly where that failure is a problem. Two things are idealised: texts
consist of characters, so none has half of a surrogate pair on its own, and the budget is all that
limits how deep calls nest, so none fails for want of a stack. -/
theorem failures_explained (members : List (String × Json)) (settings : Settings) (budget : Nat) :
    let resolver : Resolver := ⟨.obj members, settings⟩
    let ran := (resolver.resolveWithin budget).run {}
    (∀ failure, ran.1 = .error failure → failure ≠ .exhausted → resolver.Explained ran.2 failure) ∧
      ran.2.notices = match ran.1 with
        | .error (.problem problem) =>
          [.message .error ("Schema resolution failed: " ++ problem.message)]
        | _ => [] := by
  intro resolver
  rcases ran : (resolver.resolveWithin budget).run {} with ⟨failure | models, final⟩
  · obtain ⟨middle, rfl, silent, explained⟩ := explained_of_error rfl ran
    cases failure with
    | problem problem =>
      refine ⟨?_, (Progress.notices_abandoned problem).trans (by rw [silent]; rfl)⟩
      rintro _ ⟨⟩ enough
      exact (explained enough).later (List.suffix_cons _ _)
    | _ =>
      refine ⟨?_, silent⟩
      rintro _ ⟨⟩ enough
      exact explained enough
  · obtain ⟨middle, walk, -, -, rfl⟩ := resolveWithin_ok.mp ran
    refine ⟨nofun, Eq.trans (Progress.notices_noting fun problem same => ?_) ?_⟩
    · cases same
    · exact walk.notices.trans resolver.notices_started

/-- A reference into a list of numbers, where no name can be found and none can be suggested. -/
def numberedDefinitions : List (String × Json) := [
  ("$ref", .str "#/definitions/first"), ("definitions", .arr [.int 1])]

/-- A property below the root whose key has nothing left in camel case. -/
def namelessProperty : List (String × Json) := [
  ("type", .str "object"), ("properties", .obj [("inner", .obj [
    ("type", .str "object"), ("properties", .obj [("_", .obj [("type", .str "string")])])])])]

theorem failures_explained_examples :
    let listed : Resolver := ⟨.obj numberedDefinitions, {}⟩
    let bare : Resolver := ⟨.obj namelessProperty, {}⟩
    ((listed.resolve.run {}).1 = .error (.misuse .unsortable) ∧
        listed.Explained (listed.resolve.run {}).2 (.misuse .unsortable)) ∧
      (bare.resolve.run {}).1 = .error (.nameless .property) ∧
        bare.Explained (bare.resolve.run {}).2 (.nameless .property) := by
  intro listed bare
  have misused : (listed.resolve.run {}).1 = .error (.misuse .unsortable) := by decide +kernel
  have nameless : (bare.resolve.run {}).1 = .error (.nameless .property) := by decide +kernel
  refine ⟨⟨misused, ?_⟩, nameless, ?_⟩
  · exact (failures_explained numberedDefinitions {} listed.budget).1 _ misused nofun
  · exact (failures_explained namelessProperty {} bare.budget).1 _ nameless nofun

end Resolver

end SchemaCatalog
