/-! Sets of names, kept in ascending order by code points without repetition, so that equal sets are
equal values.
-/
namespace SchemaCatalog

structure NameSet where
  toList : List String
  ascending : toList.Pairwise (· < ·)
deriving DecidableEq, Repr

namespace NameSet

def place (name : String) : List String → List String
  | [] => [name]
  | other :: rest =>
    if name < other then name :: other :: rest
    else if name = other then other :: rest
    else other :: place name rest

theorem mem_place {name other : String} {names : List String} :
    other ∈ place name names ↔ other = name ∨ other ∈ names := by
  induction names with
  | nil => simp [place]
  | cons first rest ih =>
    by_cases before : name < first
    · simp [place, before]
    · by_cases same : name = first
      · subst same; simp [place]
      · simp only [place, before, same, if_false, List.mem_cons, ih]
        constructor
        · rintro (rfl | rfl | inside) <;> simp [*]
        · rintro (rfl | rfl | inside) <;> simp [*]

theorem ascending_place {name : String} {names : List String} (ascending : names.Pairwise (· < ·)) :
    (place name names).Pairwise (· < ·) := by
  induction names with
  | nil => simp [place]
  | cons first rest ih =>
    obtain ⟨above, ordered⟩ := List.pairwise_cons.mp ascending
    by_cases before : name < first
    · simp only [place, before, if_true]
      refine List.pairwise_cons.mpr ⟨fun other inside => ?_, ascending⟩
      rcases List.mem_cons.mp inside with rfl | inside
      · exact before
      · exact String.lt_trans before (above other inside)
    · by_cases same : name = first
      · simpa [place, before, same] using ascending
      · simp only [place, before, same, if_false]
        refine List.pairwise_cons.mpr ⟨fun other inside => ?_, ih ordered⟩
        rcases mem_place.mp inside with rfl | inside
        · exact String.not_le.mp fun below => same (String.le_antisymm below (String.not_lt.mp before))
        · exact above other inside

def insert (name : String) (set : NameSet) : NameSet :=
  ⟨place name set.toList, ascending_place set.ascending⟩

def empty : NameSet := ⟨[], List.Pairwise.nil⟩

def ofList (names : List String) : NameSet := names.foldr insert empty

instance : Membership String NameSet := ⟨fun set name => name ∈ set.toList⟩

theorem mem_ofList {name : String} {names : List String} : name ∈ ofList names ↔ name ∈ names := by
  induction names with
  | nil => exact Iff.rfl
  | cons first rest ih =>
    rw [List.mem_cons, ← ih]
    exact mem_place

theorem ext {first second : NameSet} (same : ∀ name, name ∈ first ↔ name ∈ second) :
    first = second := by
  have lists : first.toList = second.toList := by
    have nodup {set : NameSet} : set.toList.Nodup := by
      refine set.ascending.imp fun below equal => ?_
      exact String.lt_irrefl _ (equal ▸ below)
    have permuted := (List.perm_ext_iff_of_nodup nodup nodup).mpr same
    refine permuted.eq_of_pairwise ?_ first.ascending second.ascending
    intro name other _ _ below above
    exact absurd (String.lt_trans below above) (String.lt_irrefl _)
  cases first
  cases second
  cases lists
  rfl

theorem ofList_toList (set : NameSet) : ofList set.toList = set := ext fun _ => mem_ofList

end NameSet

end SchemaCatalog
