import Mathlib.Data.List.Forall2
import SchemaCatalog.Failure

/-! Lists related item by item. Items of the one have their counterparts in the other, and steps taken
for all items of a list succeed where each of them does.
-/
namespace SchemaCatalog

variable {α β γ δ : Type} {related : α → β → Prop} {first : List α} {second : List β}

theorem forall₂_inside (all : List.Forall₂ related first second) :
    List.Forall₂ (fun one other => one ∈ first ∧ other ∈ second ∧ related one other) first second := by
  induction all with
  | nil => exact .nil
  | cons here _ ih =>
    refine .cons ⟨List.mem_cons_self, List.mem_cons_self, here⟩ (ih.imp ?_)
    rintro one other ⟨inside, listed, known⟩
    exact ⟨List.mem_cons_of_mem _ inside, List.mem_cons_of_mem _ listed, known⟩

theorem forall₂_left (all : List.Forall₂ related first second) {one : α} (inside : one ∈ first) :
    ∃ other ∈ second, related one other := by
  induction all with
  | nil => cases inside
  | cons here _ ih =>
    rcases List.mem_cons.mp inside with rfl | inside
    · exact ⟨_, List.mem_cons_self, here⟩
    · obtain ⟨other, listed, known⟩ := ih inside
      exact ⟨other, List.mem_cons_of_mem _ listed, known⟩

theorem forall₂_right (all : List.Forall₂ related first second) {other : β} (inside : other ∈ second) :
    ∃ one ∈ first, related one other :=
  have flipped : List.Forall₂ (fun other one => related one other) second first := all.flip
  forall₂_left flipped inside

theorem forall₂_getElem? (all : List.Forall₂ related first second) {index : Nat} {one : α}
    (inside : first[index]? = some one) : ∃ other, second[index]? = some other ∧ related one other := by
  induction all generalizing index with
  | nil => cases inside
  | cons here _ ih =>
    cases index with
    | zero =>
      cases inside
      exact ⟨_, rfl, here⟩
    | succ index => exact ih inside

theorem map_eq_of_forall₂ {make : α → γ} {make' : β → γ} (all : List.Forall₂ related first second)
    (same : ∀ one other, related one other → make one = make' other) :
    first.map make = second.map make' := by
  have equal : List.Forall₂ Eq (first.map make) (second.map make') := by
    rw [List.forall₂_map_left_iff, List.forall₂_map_right_iff]
    exact all.imp same
  rwa [List.forall₂_eq_eq_eq] at equal

theorem forall₂_filter {keeps : α → Bool} {keeps' : β → Bool} (all : List.Forall₂ related first second)
    (same : ∀ one other, related one other → keeps one = keeps' other) :
    List.Forall₂ related (first.filter keeps) (second.filter keeps') := by
  induction all with
  | nil => exact .nil
  | cons here _ ih =>
    rw [List.filter_cons, List.filter_cons, same _ _ here]
    split
    · exact .cons here ih
    · exact ih

theorem forall₂_square {made : α → γ → Prop} {made' : β → δ → Prop} {fits : γ → δ → Prop}
    {results : List γ} {results' : List δ} (all : List.Forall₂ related first second)
    (here : List.Forall₂ made first results) (there : List.Forall₂ made' second results')
    (fit : ∀ item other result result', related item other → made item result →
      made' other result' → fits result result') : List.Forall₂ fits results results' := by
  induction all generalizing results results' with
  | nil =>
    cases here
    cases there
    exact .nil
  | cons first _ ih =>
    cases here with
    | cons one rest =>
      cases there with
      | cons two rest' => exact .cons (fit _ _ _ _ first one two) (ih rest rest')

theorem Failure.mapM_eq_ok {ε : Type} {step : α → Except ε β} {items : List α} {results : List β} :
    items.mapM step = .ok results ↔
      List.Forall₂ (fun item result => step item = .ok result) items results := by
  induction items generalizing results with
  | nil =>
    rw [List.mapM_nil, List.forall₂_nil_left_iff]
    exact ⟨fun same => (Except.ok.inj same).symm, fun same => same ▸ rfl⟩
  | cons item items ih =>
    rw [List.mapM_cons, bind_eq_ok]
    constructor
    · rintro ⟨result, here, ok⟩
      obtain ⟨results, later, same⟩ := bind_eq_ok.mp ok
      cases same
      exact .cons here (ih.mp later)
    · intro all
      cases all with
      | cons here rest =>
        exact ⟨_, here, bind_eq_ok.mpr ⟨_, ih.mpr rest, rfl⟩⟩

theorem Failure.exists_of_mapM_error {ε : Type} {step : α → Except ε β} {items : List α}
    {failure : ε} (failed : items.mapM step = .error failure) :
    ∃ item ∈ items, step item = .error failure := by
  induction items with
  | nil => simp [pure, Except.pure] at failed
  | cons first rest ih =>
    rw [List.mapM_cons] at failed
    cases here : step first with
    | error other =>
      rw [here] at failed
      cases failed
      exact ⟨first, List.mem_cons_self, here⟩
    | ok result =>
      rw [here] at failed
      cases later : rest.mapM step with
      | error other =>
        rw [later] at failed
        cases failed
        obtain ⟨item, inside, known⟩ := ih later
        exact ⟨item, List.mem_cons_of_mem _ inside, known⟩
      | ok results => simp [later, bind, Except.bind, pure, Except.pure] at failed

end SchemaCatalog
