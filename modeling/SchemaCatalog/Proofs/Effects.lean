import SchemaCatalog.Proofs.Beside

/-! What a script does to a registry. Notes are for the log, and only visits claim names. Main statement:
scripts that visit the same sites and come to the same leave the same registry and fail alike,
wherever they are played.
-/
namespace SchemaCatalog

namespace Script

variable {α β γ δ : Type} {fit : α → β → Prop} {fits : γ → δ → Prop} {first : Script α}
  {second : Script β}

/-- Scripts that visit the same sites, with results that fit; they may note what they like. -/
structure Agrees (fit : α → β → Prop) (first : Script α) (second : Script β) : Prop where
  visits : first.visits = second.visits
  outcome : Accord fit first.outcome second.outcome

theorem agrees_iff : Agrees fit first second ↔ Beside Eq id fit first second := by
  have outcomes : Accord fit (first.outcome.mapError id) (second.outcome.mapError id) ↔
      Accord fit first.outcome second.outcome := by
    rw [Accord.mapError_id, Accord.mapError_id]
  constructor
  · rintro ⟨visits, outcome⟩
    exact ⟨List.forall₂_eq_eq_eq ▸ visits, outcomes.mpr outcome⟩
  · rintro ⟨visits, outcome⟩
    exact ⟨List.forall₂_eq_eq_eq ▸ visits, outcomes.mp outcome⟩

theorem Agrees.refl (script : Script α) : Agrees Eq script script := ⟨rfl, .refl _⟩

theorem Agrees.attempt {outcome : Except Failure α} {outcome' : Except Failure β}
    (accord : Accord fit outcome outcome') : Agrees fit (attempt outcome) (Script.attempt outcome') :=
  ⟨rfl, accord⟩

theorem Agrees.note (remark remark' : Remark) : Agrees Eq (note remark) (Script.note remark') :=
  ⟨rfl, .ok rfl⟩

theorem Agrees.bind {next : α → Script γ} {next' : β → Script δ} (here : Agrees fit first second)
    (there : ∀ value other, fit value other → Agrees fits (next value) (next' other)) :
    Agrees fits (first >>= next) (second >>= next') :=
  agrees_iff.mpr ((agrees_iff.mp here).bind fun value other fitting =>
    agrees_iff.mp (there value other fitting))

end Script

theorem Registry.Beside.refl (registry : Registry) : Registry.Beside Eq registry registry := by
  refine List.forall₂_same.mpr fun slot _ => ⟨rfl, rfl, ?_⟩
  cases slot.model with
  | none => exact .none
  | some model => exact .some rfl

theorem Registry.Beside.eq {first second : Registry} (beside : Registry.Beside Eq first second) :
    second = first := by
  obtain ⟨slots⟩ := first
  obtain ⟨slots'⟩ := second
  have same : List.Forall₂ Eq slots slots' := by
    refine List.Forall₂.imp ?_ beside
    rintro ⟨name, fingerprint, model⟩ ⟨_, _, model'⟩ ⟨⟨⟩, ⟨⟩, related⟩
    have equal : model = model' := by
      cases related with
      | none => rfl
      | some here => rw [here]
    rw [equal]
  rw [List.forall₂_eq_eq_eq] at same
  rw [same]

theorem Resolver.beside_self (resolver : Resolver) : resolver.Beside Eq id Eq resolver where
  name := by
    rintro site _ rfl
    rfl
  fingerprint := by
    rintro site _ rfl
    rfl
  placeless := by
    rintro site _ rfl cause details
    rfl
  model := by
    rintro site _ rfl
    exact Script.agrees_iff.mp (.refl _)
  named := by
    rintro model _ rfl
    rfl

namespace Resolver

variable {resolver : Resolver} {α β : Type} {fit : α → β → Prop} {first : Script α}
  {second : Script β}

/-- Scripts that fail alike or have results that fit, and leave the same registry, wherever they are
played. -/
def SameEffect (resolver : Resolver) (fit : α → β → Prop) (first : Script α) (second : Script β) :
    Prop :=
  ∀ budget enclosing progress,
    let one := (first.play (resolver.register budget enclosing)).run progress
    let two := (second.play (resolver.register budget enclosing)).run progress
    Accord fit one.1 two.1 ∧ two.2.registry = one.2.registry

theorem sameEffect_of_agrees (agrees : Script.Agrees fit first second) :
    resolver.SameEffect fit first second := by
  intro budget enclosing progress
  obtain ⟨accord, registries⟩ := resolver.beside_self.play (Script.agrees_iff.mp agrees) budget
    enclosing (.refl progress.registry)
  rw [Accord.mapError_id, Accord.mapError_id] at accord
  exact ⟨accord, registries.eq⟩

/-- Nothing but its outcome is seen of a script that visits no site. -/
theorem SameEffect.outcome (same : resolver.SameEffect fit first second) (visits : first.visits = [])
    (visits' : second.visits = []) : Accord fit first.outcome second.outcome := by
  obtain ⟨final, -, walk⟩ : ∃ final, _ ∧ Walk resolver 0 [] first.acts {} (.ok ()) final :=
    Walk.of_visitless visits {}
  obtain ⟨final', -, walk'⟩ : ∃ final, _ ∧ Walk resolver 0 [] second.acts {} (.ok ()) final :=
    Walk.of_visitless visits' {}
  have accord := (same 0 [] {}).1
  rw [Walk.play_of_ok walk, Walk.play_of_ok walk'] at accord
  generalize first.outcome = one, second.outcome = two at accord
  cases one <;> cases two <;> exact accord

end Resolver

end SchemaCatalog
