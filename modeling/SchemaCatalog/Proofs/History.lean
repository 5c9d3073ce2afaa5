import SchemaCatalog.Proofs.Integrity

/-! Histories of one resolver. A resolution begins a registry of its own, while building a single model
adds to the registry there is; and what a request that failed had claimed stays claimed. Main
statement: whatever was asked before, a model depends on tags, on models that are built, and else only
on names that were waiting for a model already. Those are left behind by failures alone.
-/
namespace SchemaCatalog

namespace Walk

variable {resolver : Resolver} {budget : Nat} {enclosing : List String} {acts : List Act}
  {progress final : Progress} {outcome : Except Failure Unit}

/-- A walk that succeeds builds whatever it claims, and nothing else. -/
theorem pending_of_ok (walk : Walk resolver budget enclosing acts progress outcome final)
    (ok : outcome = .ok ()) : final.registry.pending = progress.registry.pending := by
  induction walk with
  | done => rfl
  | note _ ih => exact ih ok
  | exhausted => cases ok
  | collided => cases ok
  | reused _ _ ih => exact ih ok
  | failed => cases ok
  | unfinished => cases ok
  | unstored => cases ok
  | @stored _ _ site _ progress _ model middle next _ _ claimed inner built kept rest ih ihRest =>
    have named := Resolver.name_of_model built
    -- what waits for a model is a name already, so the new name is not among it
    have fresh : resolver.nameOf site ∉ progress.registry.pending := fun waits =>
      (Registry.reserve_new claimed).1 (Registry.mem_names_of_pending waits)
    calc _ = next.pending := ihRest ok
      _ = middle.registry.pending.filter (· ≠ model.name) := Registry.pending_store kept
      _ = (progress.registry.pending ++ [resolver.nameOf site]).filter (· ≠ model.name) := by
        rw [ih rfl]
        exact congrArg _ (Registry.pending_reserve_new claimed)
      _ = progress.registry.pending := by
        rw [named, List.filter_append, List.filter_eq_self.mpr]
        · simp
        · exact fun other waits => decide_eq_true fun same => fresh (same ▸ waits)

end Walk

namespace Resolver

/-- The progress that some requests come to, one after the other, each with any outcome. -/
inductive History (resolver : Resolver) : Progress → Prop
  | new : History resolver {}
  | resolved {progress outcome final} (before : History resolver progress)
      (ran : resolver.resolve.run progress = (outcome, final)) : History resolver final
  | built {progress site outcome final} (before : History resolver progress)
      (ran : (resolver.build site).run progress = (outcome, final)) : History resolver final

/-- The progress that some requests come to if none has failed since the registry was new. -/
inductive Unbroken (resolver : Resolver) : Progress → Prop
  | new : Unbroken resolver {}
  | resolved {progress models final} (before : resolver.History progress)
      (ran : resolver.resolve.run progress = (.ok models, final)) : Unbroken resolver final
  | built {progress site model final} (before : Unbroken resolver progress)
      (ran : (resolver.build site).run progress = (.ok model, final)) : Unbroken resolver final

variable {resolver : Resolver} {progress final : Progress} {site : Site} {model : Model}

theorem modelled_of_model :
    ∀ child, Act.visit child ∈ (resolver.model site).acts → child.Modelled :=
  fun _ inside => (child_of_mem_visits (Script.mem_visits.mpr inside)).modelled

theorem registry_ended (progress : Progress) (failure : Failure) :
    (ended progress failure).registry = progress.registry := by
  cases failure <;> rfl

/-- Whatever is asked of a resolver, its registry stays grounded. -/
theorem History.grounded (history : resolver.History progress) :
    resolver.Grounded Site.Modelled progress.registry := by
  induction history with
  | new => exact grounded_empty resolver _
  | @resolved _ outcome final _ ran ih =>
    have walked {start middle : Progress} {result : Except Failure Unit}
        (walk : Walk resolver resolver.budget [] resolver.root.acts (resolver.started start)
          result middle) :
        resolver.Grounded Site.Modelled middle.registry :=
      (walk.grounded resolver.stable_modelled (grounded_empty resolver _) modelled_of_start).1
    cases outcome with
    | ok models =>
      obtain ⟨middle, walk, -, -, rfl⟩ := resolveWithin_ok.mp ran
      rw [Progress.registry_noting]
      exact walked walk
    | error failure =>
      obtain ⟨middle, rfl, walk | ⟨last, walk, rfl, -⟩⟩ := resolveWithin_error ran
      · rw [registry_ended]
        exact walked walk
      · rw [registry_ended, Progress.registry_failing]
        exact walked walk
  | @built _ site outcome final _ ran ih =>
    cases outcome with
    | ok model =>
      obtain ⟨walk, -⟩ := Walk.play_ok.mp ran
      exact (walk.grounded resolver.stable_modelled ih modelled_of_model).1
    | error failure =>
      rcases Walk.play_error ran with walk | ⟨middle, walk, -, rfl⟩
      · exact (walk.grounded resolver.stable_modelled ih modelled_of_model).1
      · rw [Progress.registry_failing]
        exact (walk.grounded resolver.stable_modelled ih modelled_of_model).1

theorem Unbroken.pending (unbroken : resolver.Unbroken progress) : progress.registry.pending = [] := by
  induction unbroken with
  | new => rfl
  | resolved _ ran =>
    obtain ⟨middle, -, -, frozen, rfl⟩ := resolveWithin_ok.mp ran
    exact (Registry.freeze_ok frozen).1
  | built _ ran ih =>
    obtain ⟨walk, -⟩ := Walk.play_ok.mp ran
    exact (walk.pending_of_ok rfl).trans ih

/-- Whatever was asked before, a model that is built depends on tags and on models that are built, but
for names that were left without a model, of which there are none unless a request has failed. -/
theorem dependencies_built (history : resolver.History progress)
    (ok : (resolver.build site).run progress = (.ok model, final)) :
    final.registry.pending = progress.registry.pending ∧
    (resolver.Unbroken progress → progress.registry.pending = []) ∧
    ∀ name ∈ model.dependencies, (∃ tag : Tag, tag.name = name) ∨
      (final.registry.model? name).isSome ∨ name ∈ progress.registry.pending := by
  obtain ⟨walk, made⟩ := Walk.play_ok.mp ok
  obtain ⟨-, visited⟩ := walk.grounded resolver.stable_modelled history.grounded modelled_of_model
  have kept := walk.pending_of_ok rfl
  refine ⟨kept, Unbroken.pending, fun name depends => ?_⟩
  -- every site below is claimed in the end, and what is claimed is built or has been waiting
  rcases accounted_of_model made depends with ⟨child, inside, rfl⟩ | tagged
  · right
    have claimed : resolver.nameOf child ∈ final.registry.names := by
      rw [Registry.names_eq_claims]
      exact List.mem_map_of_mem (visited rfl child (Script.mem_visits.mp inside))
    rw [← kept]
    exact Registry.model?_or_pending claimed
  · exact .inl tagged

/-- After a resolution that succeeds, a model built on its registry depends on nothing unbuilt. -/
theorem dependencies_built_linked : ∃ progress models model final,
    (Resolver.mk linkedDocument {}).resolve.run {} = (.ok models, progress) ∧
      ((Resolver.mk linkedDocument {}).build ⟨linkSchema, "Again", "#"⟩).run progress =
        (.ok model, final) ∧
      ∀ name ∈ model.dependencies,
        (∃ tag : Tag, tag.name = name) ∨ (final.registry.model? name).isSome := by
  have checked : (match (Resolver.mk linkedDocument {}).resolve.run {} with
      | (.ok _, progress) =>
        (((Resolver.mk linkedDocument {}).build ⟨linkSchema, "Again", "#"⟩).run progress).1.isOk
      | _ => false) = true := by decide +kernel
  rcases ran : (Resolver.mk linkedDocument {}).resolve.run {} with ⟨failure | models, progress⟩
  · rw [ran] at checked
    cases checked
  rw [ran] at checked
  rcases again : ((Resolver.mk linkedDocument {}).build ⟨linkSchema, "Again", "#"⟩).run progress
    with ⟨failure | model, final⟩
  · simp only [again] at checked
    cases checked
  refine ⟨progress, models, model, final, rfl, again, fun name depends => ?_⟩
  obtain ⟨-, none_waits, accounted⟩ := dependencies_built (.resolved .new ran) again
  rcases accounted name depends with tagged | built | waits
  · exact .inl tagged
  · exact .inr built
  · rw [none_waits (.resolved .new ran)] at waits
    cases waits

/-- A schema whose inner schema declares a property without a type. -/
def brokenSite : Site where
  schema := .obj [
    ("type", .str "object"),
    ("properties", .obj [
      ("inner", .obj [("type", .str "object"), ("properties", .obj [("bare", .obj [])])])])]
  base := "Outer"
  path := "#"

/-- What fails leaves a name behind, and the same request then succeeds with a model that depends on
that name, though no model of it was ever built. -/
theorem dependency_unbuilt : ∃ failure progress model final,
    ((Resolver.mk brokenSite.schema {}).build brokenSite).run {} = (.error failure, progress) ∧
      ((Resolver.mk brokenSite.schema {}).build brokenSite).run progress = (.ok model, final) ∧
      ∃ name ∈ model.dependencies, (∀ tag : Tag, tag.name ≠ name) ∧
        final.registry.model? name = none := by
  have checked : (match ((Resolver.mk brokenSite.schema {}).build brokenSite).run {} with
      | (.error _, progress) =>
        match ((Resolver.mk brokenSite.schema {}).build brokenSite).run progress with
        | (.ok model, final) => model.dependencies.toList == ["OuterInnerModel"] &&
          final.registry.model? "OuterInnerModel" == none
        | _ => false
      | _ => false) = true := by decide +kernel
  rcases ran : ((Resolver.mk brokenSite.schema {}).build brokenSite).run {}
    with ⟨failure | model, progress⟩
  · rw [ran] at checked
    dsimp only at checked
    rcases again : ((Resolver.mk brokenSite.schema {}).build brokenSite).run progress
      with ⟨other | model, final⟩
    · rw [again] at checked
      cases checked
    · rw [again] at checked
      obtain ⟨depends, absent⟩ := Bool.and_eq_true_iff.mp checked
      refine ⟨failure, progress, model, final, rfl, again, "OuterInnerModel", ?_, ?_, ?_⟩
      · change _ ∈ model.dependencies.toList
        rw [beq_iff_eq.mp depends]
        exact List.mem_singleton_self _
      · intro tag
        cases tag <;> decide
      · exact beq_iff_eq.mp absent
  · rw [ran] at checked
    cases checked

end Resolver

end SchemaCatalog
