import SchemaCatalog.Run

/-! Scripts: what a walk through a schema does to a run. A walk reads nothing but its own part of the
document, so all it does is known before it is run: what it notes, at which sites it finds models,
and what it comes to. Whatever registers the models is passed in when the script is played.
-/
namespace SchemaCatalog

/-- What a walk has to say by itself. -/
inductive Remark
  | followed (chain : List String)
  | rootless (tag : Tag)
deriving Repr

def Remark.event : Remark → Event
  | followed chain => .followed chain
  | rootless tag => .rootless tag

inductive Act
  | note (remark : Remark)
  | visit (site : Site)
deriving Repr

def Act.site? : Act → Option Site
  | note _ => none
  | visit site => some site

def Act.play (register : Site → Run Unit) : Act → Run Unit
  | note remark => Run.note remark.event
  | visit site => register site

structure Script (α : Type) where
  acts : List Act
  outcome : Except Failure α

namespace Script

variable {α β : Type}

def visits (script : Script α) : List Site := script.acts.filterMap Act.site?

def bind (first : Script α) (next : α → Script β) : Script β :=
  match first.outcome with
  | .ok value => ⟨first.acts ++ (next value).acts, (next value).outcome⟩
  | .error failure => ⟨first.acts, .error failure⟩

instance : Monad Script where
  pure value := ⟨[], .ok value⟩
  bind := bind

def attempt (outcome : Except Failure α) : Script α := ⟨[], outcome⟩

def fail (failure : Failure) : Script α := ⟨[], .error failure⟩

def note (remark : Remark) : Script Unit := ⟨[.note remark], .ok ()⟩

def visit (site : Site) : Script Unit := ⟨[.visit site], .ok ()⟩

/-- Does what is in the script, and then succeeds or fails as it does. -/
def play (register : Site → Run Unit) (script : Script α) : Run α := do
  script.acts.forM (Act.play register)
  Run.attempt script.outcome

theorem mem_visits {script : Script α} {site : Site} :
    site ∈ script.visits ↔ Act.visit site ∈ script.acts := by
  rw [visits, List.mem_filterMap]
  constructor
  · rintro ⟨act, inside, found⟩
    cases act with
    | note remark => cases found
    | visit other =>
      cases found
      exact inside
  · intro inside
    exact ⟨_, inside, rfl⟩

@[simp] theorem outcome_pure (value : α) : (pure value : Script α).outcome = .ok value := rfl

@[simp] theorem visits_pure (value : α) : (pure value : Script α).visits = [] := rfl

@[simp] theorem outcome_attempt (outcome : Except Failure α) :
    (attempt outcome).outcome = outcome := rfl

@[simp] theorem visits_attempt (outcome : Except Failure α) : (attempt outcome).visits = [] := rfl

@[simp] theorem outcome_fail (failure : Failure) :
    (fail failure : Script α).outcome = .error failure := rfl

@[simp] theorem outcome_note (remark : Remark) : (note remark).outcome = .ok () := rfl

@[simp] theorem visits_note (remark : Remark) : (note remark).visits = [] := rfl

@[simp] theorem visits_visit (site : Site) : (visit site).visits = [site] := rfl

theorem bind_of_ok {first : Script α} {value : α} (ok : first.outcome = .ok value)
    (next : α → Script β) :
    first >>= next = ⟨first.acts ++ (next value).acts, (next value).outcome⟩ := by
  change Script.bind first next = _
  simp only [Script.bind, ok]

theorem bind_of_error {first : Script α} {failure : Failure}
    (failed : first.outcome = .error failure) (next : α → Script β) :
    first >>= next = ⟨first.acts, .error failure⟩ := by
  change Script.bind first next = _
  simp only [Script.bind, failed]

protected theorem map_id (script : Script α) : id <$> script = script := by
  rcases script with ⟨acts, outcome⟩
  cases outcome with
  | ok value => exact congrArg (Script.mk · _) (List.append_nil acts)
  | error failure => rfl

protected theorem bind_assoc {γ : Type} (first : Script α) (second : α → Script β)
    (third : β → Script γ) :
    first >>= second >>= third = first >>= fun value => second value >>= third := by
  rcases first with ⟨acts, outcome⟩
  cases outcome with
  | error failure => rfl
  | ok value =>
    change (⟨acts ++ (second value).acts, (second value).outcome⟩ : Script β) >>= third =
      ⟨acts ++ (second value >>= third).acts, (second value >>= third).outcome⟩
    cases middle : (second value).outcome with
    | error failure => rw [bind_of_error middle, bind_of_error (by rfl)]
    | ok other =>
      rw [bind_of_ok middle, bind_of_ok (by rfl)]
      simp only [List.append_assoc]

instance : LawfulMonad Script :=
  LawfulMonad.mk' Script Script.map_id (fun _ _ => rfl) Script.bind_assoc

/-- A composition succeeds with what its second part makes of the first one's result. -/
theorem outcome_bind {first : Script α} {next : α → Script β} {result : β} :
    (first >>= next).outcome = .ok result ↔
      ∃ value, first.outcome = .ok value ∧ (next value).outcome = .ok result := by
  cases outcome : first.outcome with
  | error failure => simp [bind_of_error outcome]
  | ok value => simp [bind_of_ok outcome]

/-- The second part is reached only where the first one succeeds. -/
theorem mem_visits_bind {first : Script α} {next : α → Script β} {site : Site} :
    site ∈ (first >>= next).visits ↔
      site ∈ first.visits ∨ ∃ value, first.outcome = .ok value ∧ site ∈ (next value).visits := by
  cases outcome : first.outcome with
  | error failure => simp [bind_of_error outcome, visits]
  | ok value => simp [bind_of_ok outcome, visits]

theorem mem_visits_first {first : Script α} {site : Site} (inside : site ∈ first.visits)
    (next : α → Script β) : site ∈ (first >>= next).visits :=
  mem_visits_bind.mpr (.inl inside)

theorem mem_visits_next {first : Script α} {value : α} (ok : first.outcome = .ok value)
    {next : α → Script β} {site : Site} (inside : site ∈ (next value).visits) :
    site ∈ (first >>= next).visits :=
  mem_visits_bind.mpr (.inr ⟨value, ok, inside⟩)

theorem visits_bind_of_ok {first : Script α} {value : α} (ok : first.outcome = .ok value)
    (next : α → Script β) : (first >>= next).visits = first.visits ++ (next value).visits := by
  rw [bind_of_ok ok]
  exact List.filterMap_append

theorem visits_map (change : α → β) (script : Script α) :
    (change <$> script).visits = script.visits := by
  cases outcome : script.outcome with
  | error failure => rw [← bind_pure_comp, bind_of_error outcome]; rfl
  | ok value => rw [← bind_pure_comp, visits_bind_of_ok outcome, visits_pure, List.append_nil]

theorem outcome_map {change : α → β} {script : Script α} {result : β} :
    (change <$> script).outcome = .ok result ↔
      ∃ value, script.outcome = .ok value ∧ change value = result := by
  rw [← bind_pure_comp, outcome_bind]
  simp

theorem discard_eq (script : Script α) : discard script = script >>= fun _ => pure () := by
  rw [Functor.discard, LawfulFunctor.map_const, Function.comp_apply, ← bind_pure_comp]

theorem visits_discard (script : Script α) : (discard script).visits = script.visits := by
  rw [discard_eq, bind_pure_comp, visits_map]

theorem outcome_discard {script : Script α} :
    (discard script).outcome = .ok () ↔ ∃ value, script.outcome = .ok value := by
  rw [discard_eq, outcome_bind]
  simp

end Script

end SchemaCatalog
