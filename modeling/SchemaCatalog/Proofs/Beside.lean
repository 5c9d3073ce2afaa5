import SchemaCatalog.Proofs.Integrity

/-! Two runs side by side. What two resolvers do to their registries is compared site by site, whatever
it is that the sites have in common: names and fingerprints are the same, and the models built for
them fit. Failures are compared in some view, which may leave out what is said about a place. Main
statement: runs that start with registries slot by slot alike end so, with results that fit or with
the same failure in that view.
-/
namespace SchemaCatalog

/-- Results that fit, or one and the same failure. -/
inductive Accord {α β : Type} (fit : α → β → Prop) : Except Failure α → Except Failure β → Prop
  | ok {value other} (here : fit value other) : Accord fit (.ok value) (.ok other)
  | error (failure : Failure) : Accord fit (.error failure) (.error failure)

namespace Accord

variable {α β γ δ : Type} {fit : α → β → Prop} {fits : γ → δ → Prop} {view : Failure → Failure}
  {first : Except Failure α} {second : Except Failure β}

theorem refl (outcome : Except Failure α) : Accord Eq outcome outcome := by
  cases outcome with
  | ok value => exact .ok rfl
  | error failure => exact .error failure

theorem bind {next : α → Except Failure γ} {next' : β → Except Failure δ}
    (here : Accord fit first second)
    (there : ∀ value other, fit value other → Accord fits (next value) (next' other)) :
    Accord fits (first >>= next) (second >>= next') := by
  cases here with
  | ok here => exact there _ _ here
  | error failure => exact .error failure

theorem imp {fit' : α → β → Prop} (accord : Accord fit first second)
    (weaker : ∀ value other, fit value other → fit' value other) : Accord fit' first second := by
  cases accord with
  | ok here => exact .ok (weaker _ _ here)
  | error failure => exact .error failure

theorem map {make : γ → α} {make' : γ → β} (fitting : ∀ value, fit (make value) (make' value))
    (outcome : Except Failure γ) : Accord fit (outcome.map make) (outcome.map make') := by
  cases outcome with
  | ok value => exact .ok (fitting value)
  | error failure => exact .error failure

theorem mapError_id (outcome : Except Failure α) : outcome.mapError id = outcome := by
  cases outcome <;> rfl

theorem mapError_bind (view : Failure → Failure) (first : Except Failure α)
    (next : α → Except Failure γ) :
    (first >>= next).mapError view = first.mapError view >>= fun value => (next value).mapError view := by
  cases first <;> rfl

theorem bind_viewed {next : α → Except Failure γ} {next' : β → Except Failure δ}
    (here : Accord fit (first.mapError view) (second.mapError view))
    (there : ∀ value other, fit value other →
      Accord fits ((next value).mapError view) ((next' other).mapError view)) :
    Accord fits ((first >>= next).mapError view) ((second >>= next').mapError view) := by
  rw [mapError_bind, mapError_bind]
  exact here.bind there

theorem bind_same (outcome : Except Failure α) {next : α → Except Failure γ}
    {next' : α → Except Failure δ} (there : ∀ value, Accord fits (next value) (next' value)) :
    Accord fits (outcome >>= next) (outcome >>= next') := by
  refine (refl outcome).bind ?_
  rintro value _ rfl
  exact there value

theorem of_viewed (accord : Accord fit (first.mapError view) (second.mapError view)) :
    (∃ value other, first = .ok value ∧ second = .ok other ∧ fit value other) ∨
      ∃ failure failure', first = .error failure ∧ second = .error failure' ∧
        view failure' = view failure := by
  cases first with
  | ok value =>
    cases second with
    | ok other =>
      cases accord with
      | ok here => exact .inl ⟨value, other, rfl, rfl, here⟩
    | error failure' => cases accord
  | error failure =>
    cases second with
    | ok other => cases accord
    | error failure' =>
      refine .inr ⟨failure, failure', rfl, rfl, ?_⟩
      change Accord fit (.error (view failure)) (.error (view failure')) at accord
      generalize view failure = seen, view failure' = seen' at accord
      cases accord
      rfl

theorem of_viewed_ok {value : α}
    (accord : Accord fit ((Except.ok value).mapError view) (second.mapError view)) :
    ∃ other, second = .ok other ∧ fit value other := by
  rcases accord.of_viewed with ⟨_, other, one, two, here⟩ | ⟨_, _, one, -, -⟩
  · cases one
    exact ⟨other, two, here⟩
  · cases one

theorem of_viewed_error {failure : Failure}
    (accord : Accord fit ((Except.error failure).mapError view) (second.mapError view)) :
    ∃ failure', second = .error failure' ∧ view failure' = view failure := by
  rcases accord.of_viewed with ⟨_, _, one, -, -⟩ | ⟨_, failure', one, two, same⟩
  · cases one
  · cases one
    exact ⟨failure', two, same⟩

theorem error_viewed {failure failure' : Failure} (same : view failure' = view failure) :
    Accord fit ((Except.error failure).mapError view) ((Except.error failure').mapError view) := by
  change Accord fit (.error (view failure)) (.error (view failure'))
  rw [same]
  exact .error _

end Accord

namespace Script

variable {α β γ δ : Type} {near : Site → Site → Prop} {view : Failure → Failure}
  {fit : α → β → Prop} {fits : γ → δ → Prop} {first : Script α} {second : Script β}

/-- Scripts that visit near sites in the same order, with results that fit, or the same failure as far
as the view shows. -/
structure Beside (near : Site → Site → Prop) (view : Failure → Failure) (fit : α → β → Prop)
    (first : Script α) (second : Script β) : Prop where
  visits : List.Forall₂ near first.visits second.visits
  outcome : Accord fit (first.outcome.mapError view) (second.outcome.mapError view)

namespace Beside

theorem attempt {outcome : Except Failure α} {outcome' : Except Failure β}
    (accord : Accord fit (outcome.mapError view) (outcome'.mapError view)) :
    Beside near view fit (Script.attempt outcome) (Script.attempt outcome') := ⟨.nil, accord⟩

/-- Where nothing is left out of a failure, outcomes may be compared as they are. -/
theorem attempted {outcome : Except Failure α} {outcome' : Except Failure β}
    (accord : Accord fit outcome outcome') :
    Beside near id fit (Script.attempt outcome) (Script.attempt outcome') := by
  refine attempt ?_
  rw [Accord.mapError_id, Accord.mapError_id]
  exact accord

theorem pure {value : α} {other : β} (here : fit value other) :
    Beside near view fit (Pure.pure value : Script α) (Pure.pure other) := ⟨.nil, .ok here⟩

theorem fail {failure failure' : Failure} (same : view failure' = view failure) :
    Beside near view fit (Script.fail failure : Script α) (Script.fail failure' : Script β) :=
  ⟨.nil, .error_viewed same⟩

theorem note (remark remark' : Remark) :
    Beside near view Eq (Script.note remark) (Script.note remark') := ⟨.nil, .ok rfl⟩

theorem visit {site other : Site} (here : near site other) :
    Beside near view Eq (Script.visit site) (Script.visit other) := ⟨.cons here .nil, .ok rfl⟩

theorem bind {next : α → Script γ} {next' : β → Script δ} (here : Beside near view fit first second)
    (there : ∀ value other, fit value other → Beside near view fits (next value) (next' other)) :
    Beside near view fits (first >>= next) (second >>= next') := by
  obtain ⟨visits, outcome⟩ := here
  rcases outcome.of_viewed with ⟨value, other, one, two, fitting⟩ | ⟨failure, failure', one, two, same⟩
  · have later := there value other fitting
    constructor
    · rw [visits_bind_of_ok one, visits_bind_of_ok two]
      exact List.rel_append visits later.visits
    · rw [bind_of_ok one, bind_of_ok two]
      exact later.outcome
  · rw [bind_of_error one, bind_of_error two]
    exact ⟨visits, .error_viewed same⟩

theorem bind_attempt {next : α → Script γ} {next' : α → Script δ} (outcome : Except Failure α)
    (there : ∀ value, Beside near view fits (next value) (next' value)) :
    Beside near view fits (Script.attempt outcome >>= next) (Script.attempt outcome >>= next') := by
  refine bind (attempt (.refl _)) ?_
  rintro value _ rfl
  exact there value

theorem mapM {walk : α → Script γ} {walk' : β → Script δ} {items : List α} {others : List β}
    (related : List.Forall₂ (fun item other => Beside near view fits (walk item) (walk' other))
      items others) :
    Beside near view (List.Forall₂ fits) (items.mapM walk) (others.mapM walk') := by
  induction related with
  | nil => exact pure .nil
  | cons here _ ih =>
    rw [List.mapM_cons, List.mapM_cons]
    refine here.bind fun result result' fitting => ?_
    exact ih.bind fun results results' fittings => pure (.cons fitting fittings)

theorem imp {fit' : α → β → Prop} (beside : Beside near view fit first second)
    (weaker : ∀ value other, fit value other → fit' value other) :
    Beside near view fit' first second := ⟨beside.visits, beside.outcome.imp weaker⟩

end Beside

end Script

/-- Slots claimed alike, empty both or with models that fit. -/
structure Slot.Beside (fit : Model → Model → Prop) (one other : Slot) : Prop where
  name : other.name = one.name
  fingerprint : other.fingerprint = one.fingerprint
  model : Option.Rel fit one.model other.model

def Registry.Beside (fit : Model → Model → Prop) (first second : Registry) : Prop :=
  List.Forall₂ (Slot.Beside fit) first.slots second.slots

namespace Registry.Beside

variable {fit : Model → Model → Prop} {view : Failure → Failure} {first second : Registry}
  {name fingerprint : String} {model other : Model}

theorem empty : Registry.Beside fit {} {} := .nil

theorem slot? (beside : Registry.Beside fit first second) (name : String) :
    Option.Rel (Slot.Beside fit) (first.slot? name) (second.slot? name) := by
  obtain ⟨slots⟩ := first
  obtain ⟨slots'⟩ := second
  simp only [Registry.Beside, Registry.slot?] at *
  induction beside with
  | nil => exact .none
  | @cons one other _ _ here _ ih =>
    rw [List.find?_cons, List.find?_cons, here.name]
    split
    · exact .some here
    · exact ih

theorem pending (beside : Registry.Beside fit first second) : second.pending = first.pending := by
  obtain ⟨slots⟩ := first
  obtain ⟨slots'⟩ := second
  simp only [Registry.Beside, Registry.pending] at *
  symm
  refine map_eq_of_forall₂ (forall₂_filter beside fun one other here => ?_) fun one other here =>
    here.name.symm
  cases one with
  | mk _ _ held =>
    cases other with
    | mk _ _ held' =>
      obtain ⟨-, -, related⟩ := here
      cases related <;> rfl

theorem reserve (beside : Registry.Beside fit first second) {path path' : Option String}
    (placeless : ∀ cause details,
      view (.detailed cause path' details) = view (.detailed cause path details)) :
    Accord (fun answer answer' => answer'.1 = answer.1 ∧ Registry.Beside fit answer.2 answer'.2)
      ((first.reserve name fingerprint path).mapError view)
      ((second.reserve name fingerprint path').mapError view) := by
  have related := beside.slot? name
  unfold Registry.reserve
  generalize first.slot? name = found, second.slot? name = found' at related
  cases related with
  | none =>
    refine .ok ⟨rfl, List.rel_append beside (.cons ⟨rfl, rfl, .none⟩ .nil)⟩
  | @some one other here =>
    dsimp only
    rw [here.fingerprint]
    split
    · exact .ok ⟨rfl, beside⟩
    · exact .error_viewed (placeless _ _)

theorem store (beside : Registry.Beside fit first second) (view : Failure → Failure)
    (named : other.name = model.name) (fitting : fit model other) :
    Accord (Registry.Beside fit) ((first.store model).mapError view)
      ((second.store other).mapError view) := by
  have related := beside.slot? model.name
  unfold Registry.store
  rw [named]
  generalize first.slot? model.name = found, second.slot? model.name = found' at related
  cases related with
  | none => exact .error_viewed rfl
  | @some slot slot' here =>
    have built : slot'.model.isSome = slot.model.isSome := by
      have held := here.model
      generalize slot.model = one, slot'.model = two at held
      cases held <;> rfl
    dsimp only
    rw [built]
    split
    · exact .error_viewed rfl
    · refine .ok ?_
      unfold Registry.Beside
      rw [List.forall₂_map_left_iff, List.forall₂_map_right_iff]
      refine beside.imp fun one two here => ?_
      rw [here.name]
      split
      · exact ⟨rfl, here.fingerprint, .some fitting⟩
      · exact here

theorem freeze (beside : Registry.Beside fit first second) (view : Failure → Failure) :
    Accord (List.Forall₂ fun entry entry' => entry'.1 = entry.1 ∧ fit entry.2 entry'.2)
      (first.freeze.mapError view) (second.freeze.mapError view) := by
  unfold Registry.freeze
  rw [beside.pending]
  split
  · refine .ok ?_
    unfold Registry.Beside at beside
    generalize first.slots = slots, second.slots = slots' at beside
    induction beside with
    | nil => exact .nil
    | @cons one two _ _ here _ ih =>
      have held := here.model
      rw [List.filterMap_cons, List.filterMap_cons, here.name]
      generalize one.model = model, two.model = model' at held
      cases held with
      | none => exact ih
      | some fitting => exact .cons ⟨rfl, fitting⟩ ih
  · exact .error_viewed rfl

end Registry.Beside

/-- Resolvers for which near sites make the same claims and come to models that fit. -/
structure Resolver.Beside (near : Site → Site → Prop) (view : Failure → Failure)
    (fit : Model → Model → Prop) (first second : Resolver) : Prop where
  name : ∀ site other, near site other → second.nameOf other = first.nameOf site
  fingerprint : ∀ site other, near site other → other.schema.fingerprint = site.schema.fingerprint
  placeless : ∀ site other, near site other → ∀ cause details,
    view (.detailed cause (some other.path) details) = view (.detailed cause (some site.path) details)
  model : ∀ site other, near site other → (first.model site).Beside near view fit (second.model other)
  named : ∀ model other, fit model other → other.name = model.name

variable {near : Site → Site → Prop} {view : Failure → Failure} {fit : Model → Model → Prop}
  {first second : Resolver} {budget : Nat} {enclosing : List String} {acts acts' : List Act}
  {progress progress' final : Progress} {outcome : Except Failure Unit}

theorem Resolver.Beside.claim (beside : Resolver.Beside near view fit first second)
    {site other : Site} (here : near site other) {registry registry' : Registry}
    (registries : Registry.Beside fit registry registry') :
    Accord (fun answer answer' => answer'.1 = answer.1 ∧ Registry.Beside fit answer.2 answer'.2)
      ((first.claim site registry).mapError view) ((second.claim other registry').mapError view) := by
  unfold Resolver.claim
  rw [beside.name site other here, beside.fingerprint site other here]
  exact registries.reserve (beside.placeless site other here)

theorem Resolver.Beside.exists_model (beside : Resolver.Beside near view fit first second)
    {site other : Site} (here : near site other) {model : Model}
    (built : (first.model site).outcome = .ok model) :
    ∃ model', (second.model other).outcome = .ok model' ∧ fit model model' := by
  have ended := (beside.model site other here).outcome
  rw [built] at ended
  exact ended.of_viewed_ok

namespace Walk

section

variable {resolver : Resolver} {site : Site} {others : List Act}

/-- Up to the first visit there are notes only, which leave the registry as it is. -/
theorem before_visit {sites : List Site} (visits : others.filterMap Act.site? = site :: sites)
    (progress : Progress) : ∃ middle rest, middle.registry = progress.registry ∧
      rest.filterMap Act.site? = sites ∧ ∀ {budget outcome final},
        Walk resolver budget enclosing (.visit site :: rest) middle outcome final →
          Walk resolver budget enclosing others progress outcome final := by
  induction others generalizing progress with
  | nil => cases visits
  | cons act others ih =>
    cases act with
    | note remark =>
      obtain ⟨middle, rest, registry, later, walks⟩ := ih visits (progress.noting remark.event)
      exact ⟨middle, rest, registry, later, fun walk => .note (walks walk)⟩
    | visit other =>
      obtain ⟨rfl, later⟩ := List.cons.inj visits
      exact ⟨progress, others, rfl, later, fun walk => walk⟩

theorem of_visitless (none_visited : others.filterMap Act.site? = []) (progress : Progress) :
    ∃ final, final.registry = progress.registry ∧
      Walk resolver budget enclosing others progress (.ok ()) final := by
  induction others generalizing progress with
  | nil => exact ⟨progress, rfl, .done⟩
  | cons act others ih =>
    cases act with
    | note remark =>
      obtain ⟨final, registry, walk⟩ := ih none_visited (progress.noting remark.event)
      exact ⟨final, registry, .note walk⟩
    | visit other => cases none_visited

end

theorem exists_visit {site : Site} {sites : List Site} {registry : Registry}
    (visits : List.Forall₂ near (site :: sites) (acts'.filterMap Act.site?))
    (registries : Registry.Beside fit registry progress'.registry) :
    ∃ other middle rest, near site other ∧ Registry.Beside fit registry middle.registry ∧
      List.Forall₂ near sites (rest.filterMap Act.site?) ∧ ∀ {budget outcome final},
        Walk second budget enclosing (.visit other :: rest) middle outcome final →
          Walk second budget enclosing acts' progress' outcome final := by
  generalize visited : acts'.filterMap Act.site? = others at visits
  cases visits with
  | cons here later =>
    obtain ⟨middle, rest, same, rfl, walks⟩ := before_visit visited progress'
    exact ⟨_, middle, rest, here, same ▸ registries, later, walks⟩

/-- Up to the first visit the other acts leave the registry as it is, and the claim made there is
answered alike. -/
theorem exists_claim (beside : Resolver.Beside near view fit first second) {site : Site}
    {sites : List Site} {registry next : Registry} {isNew : Bool}
    (visits : List.Forall₂ near (site :: sites) (acts'.filterMap Act.site?))
    (registries : Registry.Beside fit registry progress'.registry)
    (claimed : first.claim site registry = .ok (isNew, next)) :
    ∃ other middle rest next', near site other ∧ List.Forall₂ near sites (rest.filterMap Act.site?) ∧
      second.claim other middle.registry = .ok (isNew, next') ∧
      Registry.Beside fit registry middle.registry ∧ Registry.Beside fit next next' ∧
      ∀ {budget outcome final},
        Walk second budget enclosing (.visit other :: rest) middle outcome final →
          Walk second budget enclosing acts' progress' outcome final := by
  obtain ⟨other, middle, rest, here, registries, later, walks⟩ := exists_visit visits registries
  have accord := beside.claim here registries
  rw [claimed] at accord
  obtain ⟨⟨_, next'⟩, claimed', rfl, kept⟩ := accord.of_viewed_ok
  exact ⟨other, middle, rest, next', here, later, claimed', registries, kept, walks⟩

/-- A claim that is new is new in the other walk too, and what is walked inside it is so from its
own name on. -/
theorem exists_entered (beside : Resolver.Beside near view fit first second) {site : Site}
    {sites : List Site} {registry next : Registry} {result : Except Failure Unit}
    {inside : Progress} (visits : List.Forall₂ near (site :: sites) (acts'.filterMap Act.site?))
    (registries : Registry.Beside fit registry progress'.registry)
    (claimed : first.claim site registry = .ok (true, next))
    (inner : ∀ {acts progress},
      List.Forall₂ near ((first.model site).acts.filterMap Act.site?) (acts.filterMap Act.site?) →
      Registry.Beside fit next progress.registry →
        ∃ result' inside', Walk second budget (first.nameOf site :: enclosing) acts progress
            result' inside' ∧ Accord Eq (result.mapError view) (result'.mapError view) ∧
          Registry.Beside fit inside.registry inside'.registry) :
    ∃ other middle rest next' result' inside', near site other ∧
      List.Forall₂ near sites (rest.filterMap Act.site?) ∧
      second.claim other middle.registry = .ok (true, next') ∧
      Walk second budget (second.nameOf other :: enclosing) (second.model other).acts
        (second.entered other enclosing middle next') result' inside' ∧
      Accord Eq (result.mapError view) (result'.mapError view) ∧
      Registry.Beside fit inside.registry inside'.registry ∧
      ∀ {budget outcome final},
        Walk second budget enclosing (.visit other :: rest) middle outcome final →
          Walk second budget enclosing acts' progress' outcome final := by
  obtain ⟨other, middle, rest, next', here, later, claimed', -, registries, walks⟩ :=
    exists_claim beside visits registries claimed
  have entered : Registry.Beside fit next (second.entered other enclosing middle next').registry :=
    registries
  obtain ⟨result', inside', walk, accord, kept⟩ := inner (beside.model _ _ here).visits entered
  rw [← beside.name _ _ here] at walk
  exact ⟨other, middle, rest, next', result', inside', here, later, claimed', walk, accord, kept, walks⟩

/-- Walks through sites that are near each other go on side by side. -/
theorem beside (walk : Walk first budget enclosing acts progress outcome final)
    (beside : Resolver.Beside near view fit first second)
    (visits : List.Forall₂ near (acts.filterMap Act.site?) (acts'.filterMap Act.site?))
    (registries : Registry.Beside fit progress.registry progress'.registry) :
    ∃ outcome' final', Walk second budget enclosing acts' progress' outcome' final' ∧
      Accord Eq (outcome.mapError view) (outcome'.mapError view) ∧
      Registry.Beside fit final.registry final'.registry := by
  -- the other acts are cut at their first visit, where the registries are side by side again
  induction walk generalizing acts' progress' with
  | done =>
    obtain ⟨final', same, walk⟩ := of_visitless (List.forall₂_nil_left_iff.mp visits) progress'
    exact ⟨_, final', walk, .refl _, same ▸ registries⟩
  | note rest ih => exact ih visits registries
  | exhausted =>
    obtain ⟨other, middle, rest, -, registries, -, walks⟩ := exists_visit visits registries
    exact ⟨_, middle, walks .exhausted, .refl _, registries⟩
  | collided refused =>
    obtain ⟨other, middle, rest, here, registries, -, walks⟩ := exists_visit visits registries
    have accord := beside.claim here registries
    rw [refused] at accord
    obtain ⟨failure', refused', same⟩ := accord.of_viewed_error
    exact ⟨_, _, walks (.collided refused'), .error_viewed same, by simpa using registries⟩
  | @reused _ enclosing _ _ _ _ _ _ known rest ih =>
    obtain ⟨other, middle, others, _, here, later, known', registries, -, walks⟩ :=
      exists_claim beside visits registries known
    have passed : Registry.Beside fit _ (middle.noting (.reached other enclosing)).registry := registries
    obtain ⟨outcome', final', walk, accord, kept⟩ := ih later passed
    exact ⟨outcome', final', walks (.reused known' walk), accord, kept⟩
  | failed claimed inner ih =>
    obtain ⟨other, middle, others, next', _, inside', here, -, claimed', walk, accord, kept, walks⟩ :=
      exists_entered beside visits registries claimed ih
    obtain ⟨failure', rfl, same⟩ := accord.of_viewed_error
    exact ⟨_, inside', walks (.failed claimed' walk), accord, kept⟩
  | unfinished claimed inner fault ih =>
    obtain ⟨other, middle, others, next', _, inside', here, -, claimed', walk, accord, kept, walks⟩ :=
      exists_entered beside visits registries claimed ih
    obtain ⟨_, rfl, -⟩ := accord.of_viewed_ok
    have ended := (beside.model _ _ here).outcome
    rw [fault] at ended
    obtain ⟨failure', fault', same⟩ := ended.of_viewed_error
    exact ⟨_, _, walks (.unfinished claimed' walk fault'), .error_viewed same, by simpa using kept⟩
  | unstored claimed inner built refused ih =>
    obtain ⟨other, middle, others, next', _, inside', here, -, claimed', walk, accord, kept, walks⟩ :=
      exists_entered beside visits registries claimed ih
    obtain ⟨_, rfl, -⟩ := accord.of_viewed_ok
    obtain ⟨model', built', fitting⟩ := beside.exists_model here built
    have stored := kept.store view (beside.named _ _ fitting) fitting
    rw [refused] at stored
    obtain ⟨failure', refused', same⟩ := stored.of_viewed_error
    exact ⟨_, _, walks (.unstored claimed' walk built' refused'), .error_viewed same,
      by simpa using kept⟩
  | stored claimed inner built stored rest ih ihRest =>
    obtain ⟨other, middle, others, next', _, inside', here, later, claimed', walk, accord, kept, walks⟩ :=
      exists_entered beside visits registries claimed ih
    obtain ⟨_, rfl, -⟩ := accord.of_viewed_ok
    obtain ⟨model', built', fitting⟩ := beside.exists_model here built
    have accord := kept.store view (beside.named _ _ fitting) fitting
    rw [stored] at accord
    obtain ⟨registry', stored', kept⟩ := accord.of_viewed_ok
    have holding : Registry.Beside fit _
        (Progress.noting ⟨registry', inside'.events⟩ (.stored model')).registry := kept
    obtain ⟨outcome', last, walk', accord, registries⟩ := ihRest later holding
    exact ⟨outcome', last, walks (.stored claimed' walk built' stored' walk'), accord, registries⟩

end Walk

namespace Resolver.Beside

variable {α β : Type} {fits : α → β → Prop} {script : Script α} {script' : Script β}

theorem play (beside : Resolver.Beside near view fit first second)
    (scripts : script.Beside near view fits script') (budget : Nat) (enclosing : List String)
    (registries : Registry.Beside fit progress.registry progress'.registry) :
    let one := (script.play (first.register budget enclosing)).run progress
    let two := (script'.play (second.register budget enclosing)).run progress'
    Accord fits (one.1.mapError view) (two.1.mapError view) ∧
      Registry.Beside fit one.2.registry two.2.registry := by
  obtain ⟨inside, middle, walk⟩ := Walk.exists_walk first budget enclosing script.acts progress
  obtain ⟨inside', middle', walk', accord, kept⟩ := walk.beside beside scripts.visits registries
  cases inside with
  | error failure =>
    obtain ⟨failure', rfl, same⟩ := accord.of_viewed_error
    rw [Walk.play_of_error walk, Walk.play_of_error walk']
    exact ⟨.error_viewed same, kept⟩
  | ok =>
    obtain ⟨_, rfl, -⟩ := accord.of_viewed_ok
    rw [Walk.play_of_ok walk, Walk.play_of_ok walk']
    rcases scripts.outcome.of_viewed with
      ⟨value, other, one, two, here⟩ | ⟨failure, failure', one, two, same⟩
    · rw [Run.run_attempt_of_ok one, Run.run_attempt_of_ok two]
      exact ⟨.ok here, kept⟩
    · rw [Run.run_attempt_of_error one, Run.run_attempt_of_error two]
      exact ⟨.error_viewed same, by simpa using kept⟩

/-- Resolutions whose roots are side by side come to the same names, with models that fit. -/
theorem resolveWithin (beside : Resolver.Beside near view fit first second)
    (roots : first.root.Beside near view Eq second.root) (budget : Nat) (start start' : Progress) :
    Accord (List.Forall₂ fun entry entry' => entry'.1 = entry.1 ∧ fit entry.2 entry'.2)
      (((first.resolveWithin budget).run start).1.mapError view)
      (((second.resolveWithin budget).run start').1.mapError view) := by
  have played := beside.play roots budget []
    (show Registry.Beside fit (first.started start).registry (second.started start').registry from .empty)
  rcases one : (first.root.play (first.register budget [])).run (first.started start) with
    ⟨outcome, middle⟩
  rcases two : (second.root.play (second.register budget [])).run (second.started start') with
    ⟨outcome', middle'⟩
  rw [one, two] at played
  obtain ⟨accord, kept⟩ := played
  cases outcome with
  | error failure =>
    obtain ⟨failure', rfl, same⟩ := accord.of_viewed_error
    rw [resolveWithin_of_error (Run.run_bind_of_error one _),
      resolveWithin_of_error (Run.run_bind_of_error two _)]
    exact .error_viewed same
  | ok =>
    obtain ⟨_, rfl, -⟩ := accord.of_viewed_ok
    have one := Run.run_bind_of_ok one fun _ => Run.freeze
    have two := Run.run_bind_of_ok two fun _ => Run.freeze
    rw [Run.run_freeze] at one two
    rcases (kept.freeze view).of_viewed with
      ⟨models, models', ended, ended', here⟩ | ⟨failure, failure', ended, ended', same⟩
    · rw [resolveWithin_of_ok (one.trans (Run.run_attempt_of_ok ended)),
        resolveWithin_of_ok (two.trans (Run.run_attempt_of_ok ended'))]
      exact .ok here
    · rw [resolveWithin_of_error (one.trans (Run.run_attempt_of_error ended)),
        resolveWithin_of_error (two.trans (Run.run_attempt_of_error ended'))]
      exact .error_viewed same

end Resolver.Beside

end SchemaCatalog
