import Mathlib.Data.List.Nodup
import SchemaCatalog.Registry

/-! What claiming a name and storing a model do to a registry. Claims, that is names with fingerprints,
are only ever added, at the end; the names that wait for a model are those claimed and not stored.
-/
namespace SchemaCatalog.Registry

def claims (registry : Registry) : List (String × String) :=
  registry.slots.map fun slot => (slot.name, slot.fingerprint)

theorem names_eq_claims (registry : Registry) : registry.names = registry.claims.map (·.1) := by
  simp [names, claims]

theorem mem_names {registry : Registry} {name : String} :
    name ∈ registry.names ↔ ∃ slot ∈ registry.slots, slot.name = name := by
  simp [names]

theorem mem_claims {registry : Registry} {name fingerprint : String} :
    (name, fingerprint) ∈ registry.claims ↔
      ∃ slot ∈ registry.slots, slot.name = name ∧ slot.fingerprint = fingerprint := by
  simp [claims]

theorem mem_pending {registry : Registry} {name : String} :
    name ∈ registry.pending ↔ ∃ slot ∈ registry.slots, slot.model = none ∧ slot.name = name := by
  simp [pending, and_assoc]

theorem mem_names_of_pending {registry : Registry} {name : String} (waits : name ∈ registry.pending) :
    name ∈ registry.names := by
  obtain ⟨slot, inside, -, named⟩ := mem_pending.mp waits
  exact mem_names.mpr ⟨slot, inside, named⟩

theorem slot?_eq_none {registry : Registry} {name : String} :
    registry.slot? name = none ↔ name ∉ registry.names := by
  simp [slot?, names]

theorem slot?_eq_some {registry : Registry} (distinct : registry.names.Nodup) {slot : Slot} :
    registry.slot? slot.name = some slot ↔ slot ∈ registry.slots := by
  rcases registry with ⟨slots⟩
  simp only [slot?, names] at *
  induction slots with
  | nil => simp
  | cons first rest ih =>
    obtain ⟨absent, distinct⟩ := List.nodup_cons.mp distinct
    by_cases same : first.name = slot.name
    · have outside : slot ∉ rest := fun inside =>
        absent (List.mem_map.mpr ⟨slot, inside, same.symm⟩)
      rw [List.find?_cons_of_pos (by simpa using same)]
      simp [outside, eq_comm]
    · have different : slot ≠ first := fun equal => same (congrArg Slot.name equal.symm)
      rw [List.find?_cons_of_neg (by simpa using same), ih distinct]
      simp [different]

/-- The model of a name that is claimed is built, or waits to be. -/
theorem model?_or_pending {registry : Registry} {name : String} (claimed : name ∈ registry.names) :
    (registry.model? name).isSome ∨ name ∈ registry.pending := by
  cases found : registry.slot? name with
  | none => exact absurd claimed (slot?_eq_none.mp found)
  | some slot =>
    have named : slot.name = name := by simpa using List.find?_some found
    cases built : slot.model with
    | some model => simp [model?, found, built]
    | none =>
      right
      exact mem_pending.mpr ⟨slot, List.mem_of_find?_eq_some found, built, named⟩

theorem claims_unique {registry : Registry} (distinct : registry.names.Nodup)
    {name first second : String} (one : (name, first) ∈ registry.claims)
    (other : (name, second) ∈ registry.claims) : first = second := by
  rw [names_eq_claims] at distinct
  exact congrArg Prod.snd (List.inj_on_of_nodup_map distinct one other rfl)

/-- The answer is true for a name that was free. -/
theorem reserve_new {registry next : Registry} {name fingerprint : String} {path : Option String}
    (reserved : registry.reserve name fingerprint path = .ok (true, next)) :
    name ∉ registry.names ∧ next = ⟨registry.slots ++ [⟨name, fingerprint, none⟩]⟩ := by
  unfold reserve at reserved
  split at reserved
  next absent =>
    cases reserved
    exact ⟨slot?_eq_none.mp absent, rfl⟩
  next =>
    split at reserved
    · cases reserved
    · cases reserved

/-- The answer is false for a name that was claimed for the same structure. -/
theorem reserve_known {registry next : Registry} {name fingerprint : String} {path : Option String}
    (reserved : registry.reserve name fingerprint path = .ok (false, next)) :
    next = registry ∧ (name, fingerprint) ∈ registry.claims := by
  unfold reserve at reserved
  split at reserved
  next => cases reserved
  next slot found =>
    split at reserved
    next same =>
      cases reserved
      have named : slot.name = name := by simpa using List.find?_some found
      exact ⟨rfl, mem_claims.mpr ⟨slot, List.mem_of_find?_eq_some found, named, same⟩⟩
    next => cases reserved

theorem reserve_error {registry : Registry} {name fingerprint : String} {path : Option String}
    {failure : Failure} (failed : registry.reserve name fingerprint path = .error failure) :
    ∃ other, other ≠ fingerprint ∧ (name, other) ∈ registry.claims ∧
      failure = .detailed (.nameTaken name) path
        ("existing=" ++ other ++ " conflicting=" ++ fingerprint) := by
  unfold reserve at failed
  split at failed
  next => cases failed
  next slot found =>
    split at failed
    next => cases failed
    next different =>
      cases failed
      have named : slot.name = name := by simpa using List.find?_some found
      exact ⟨slot.fingerprint, different,
        mem_claims.mpr ⟨slot, List.mem_of_find?_eq_some found, named, rfl⟩, rfl⟩

theorem reserve_free {registry : Registry} {name fingerprint : String} {path : Option String}
    (free : name ∉ registry.names) :
    registry.reserve name fingerprint path =
      .ok (true, ⟨registry.slots ++ [⟨name, fingerprint, none⟩]⟩) := by
  simp only [reserve, slot?_eq_none.mpr free]

theorem reserve_claimed {registry : Registry} {name fingerprint : String} {path : Option String}
    (distinct : registry.names.Nodup) (claimed : (name, fingerprint) ∈ registry.claims) :
    registry.reserve name fingerprint path = .ok (false, registry) := by
  obtain ⟨slot, inside, rfl, rfl⟩ := mem_claims.mp claimed
  simp only [reserve, (slot?_eq_some distinct).mpr inside, if_true]

/-- A model is stored where a slot of its name waits for it, and nowhere else. -/
theorem store_ok {registry next : Registry} {model : Model}
    (stored : registry.store model = .ok next) :
    model.name ∈ registry.pending ∧
      next = ⟨registry.slots.map fun slot =>
        if slot.name = model.name then { slot with model := some model } else slot⟩ := by
  unfold store at stored
  split at stored
  next => cases stored
  next slot found =>
    split at stored
    next => cases stored
    next free =>
      cases stored
      have named : slot.name = model.name := by simpa using List.find?_some found
      exact ⟨mem_pending.mpr
        ⟨slot, List.mem_of_find?_eq_some found, by simpa using free, named⟩, rfl⟩

theorem store_ne_exhausted {registry : Registry} {model : Model} :
    registry.store model ≠ .error .exhausted := by
  unfold store
  split
  · nofun
  · split <;> nofun

theorem store_of_pending {registry : Registry} (distinct : registry.names.Nodup) {model : Model}
    (waiting : model.name ∈ registry.pending) :
    registry.store model = .ok ⟨registry.slots.map fun slot =>
      if slot.name = model.name then { slot with model := some model } else slot⟩ := by
  obtain ⟨slot, inside, unbuilt, named⟩ := mem_pending.mp waiting
  have found : registry.slot? model.name = some slot := named ▸ (slot?_eq_some distinct).mpr inside
  simp only [store, found, unbuilt, Option.isSome_none, Bool.false_eq_true, if_false]

section After

variable {registry next : Registry} {name fingerprint : String} {path : Option String} {model : Model}

theorem claims_reserve_new (reserved : registry.reserve name fingerprint path = .ok (true, next)) :
    next.claims = registry.claims ++ [(name, fingerprint)] := by
  rw [(reserve_new reserved).2]
  simp [claims]

theorem mem_claims_reserve_new (reserved : registry.reserve name fingerprint path = .ok (true, next))
    {claim : String × String} :
    claim ∈ next.claims ↔ claim ∈ registry.claims ∨ claim = (name, fingerprint) := by
  rw [claims_reserve_new reserved, List.mem_append, List.mem_singleton]

theorem names_reserve_new (reserved : registry.reserve name fingerprint path = .ok (true, next)) :
    next.names = registry.names ++ [name] := by
  rw [(reserve_new reserved).2]
  simp [names]

theorem nodup_reserve_new (reserved : registry.reserve name fingerprint path = .ok (true, next))
    (distinct : registry.names.Nodup) : next.names.Nodup := by
  have free := (reserve_new reserved).1
  rw [names_reserve_new reserved]
  exact distinct.append (List.nodup_singleton _) (by simpa using free)

theorem pending_reserve_new (reserved : registry.reserve name fingerprint path = .ok (true, next)) :
    next.pending = registry.pending ++ [name] := by
  rw [(reserve_new reserved).2]
  simp [pending]

theorem claims_store (stored : registry.store model = .ok next) : next.claims = registry.claims := by
  rw [(store_ok stored).2]
  simp only [claims, List.map_map]
  apply List.map_congr_left
  intro slot _
  by_cases same : slot.name = model.name <;> simp [same]

theorem names_store (stored : registry.store model = .ok next) : next.names = registry.names := by
  rw [names_eq_claims, claims_store stored, names_eq_claims]

theorem pending_store (stored : registry.store model = .ok next) :
    next.pending = registry.pending.filter (· ≠ model.name) := by
  rw [(store_ok stored).2]
  clear stored
  rcases registry with ⟨slots⟩
  simp only [pending]
  induction slots with
  | nil => rfl
  | cons first rest ih =>
    by_cases same : first.name = model.name
    · cases waiting : first.model <;> simp_all
    · cases waiting : first.model <;> simp_all

end After

/-- The models come under their own claims, one for each name, in order. -/
theorem freeze_ok {registry : Registry} {models : List (String × Model)}
    (frozen : registry.freeze = .ok models) :
    registry.pending = [] ∧ models.map (·.1) = registry.names ∧
      ∀ name model, (name, model) ∈ models ↔
        ∃ slot ∈ registry.slots, slot.name = name ∧ slot.model = some model := by
  unfold freeze at frozen
  split at frozen
  next empty =>
    cases frozen
    have none_waits : ∀ slot ∈ registry.slots, ∃ model, slot.model = some model := by
      intro slot inside
      cases built : slot.model with
      | some model => exact ⟨model, rfl⟩
      | none =>
        have waits : slot.name ∈ registry.pending := mem_pending.mpr ⟨slot, inside, built, rfl⟩
        simp [List.isEmpty_iff.mp empty] at waits
    refine ⟨List.isEmpty_iff.mp empty, ?_, ?_⟩
    · rcases registry with ⟨slots⟩
      simp only [names] at none_waits ⊢
      clear empty
      induction slots with
      | nil => rfl
      | cons first rest ih =>
        obtain ⟨model, built⟩ := none_waits first (by simp)
        simp only [List.filterMap_cons, built, Option.map_some, List.map_cons]
        rw [ih fun slot inside => none_waits slot (by simp [inside])]
    · intro name model
      simp only [List.mem_filterMap, Option.map_eq_some_iff]
      constructor
      · rintro ⟨slot, inside, found, built, equal⟩
        cases equal
        exact ⟨slot, inside, rfl, built⟩
      · rintro ⟨slot, inside, rfl, built⟩
        exact ⟨slot, inside, model, built, rfl⟩
  next => cases frozen

/-- Slot by slot, the models come under their names. -/
theorem forall₂_freeze {registry : Registry} {models : List (String × Model)}
    (frozen : registry.freeze = .ok models) :
    List.Forall₂ (fun slot entry => entry.1 = slot.name ∧ slot.model = some entry.2)
      registry.slots models := by
  obtain ⟨none_waits, -⟩ := freeze_ok frozen
  rw [freeze, none_waits] at frozen
  cases frozen
  rcases registry with ⟨slots⟩
  dsimp only
  induction slots with
  | nil => exact .nil
  | cons first rest ih =>
    cases built : first.model with
    | none => simp [pending, built] at none_waits
    | some model =>
      rw [List.filterMap_cons, built]
      refine .cons ⟨rfl, built⟩ (ih ?_)
      simpa [pending, built] using none_waits

theorem freeze_ne_exhausted {registry : Registry} : registry.freeze ≠ .error .exhausted := by
  unfold freeze
  split <;> nofun

theorem freeze_of_pending {registry : Registry} (none_waits : registry.pending = []) :
    ∃ models, registry.freeze = .ok models := by
  simp [freeze, none_waits]

end SchemaCatalog.Registry
