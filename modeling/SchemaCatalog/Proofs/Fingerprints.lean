import SchemaCatalog.Proofs.Reordering

/-! What a fingerprint tells. Two documents have one fingerprint exactly if they become equal, up to the
order of members, without their annotations. Read from the top, scalars have to be equal, lists to
correspond item by item, and objects to have the same members other than annotations, with values
that correspond. Main statement: both of these together.
-/
namespace SchemaCatalog

open Fingerprint

namespace Json

variable {first second value : Json} {items : List Json} {members others : List (String × Json)}
  {name : String}

theorem kindName_stripped (value : Json) : value.stripped.kindName = value.kindName := by
  cases value <;> rfl

theorem isContainer_stripped (value : Json) : value.stripped.isContainer = value.isContainer := by
  cases value <;> rfl

theorem Reordered.kindName (reordered : Reordered first second) : first.kindName = second.kindName := by
  cases reordered <;> rfl

theorem SameStructure.kindName (same : SameStructure first second) :
    first.kindName = second.kindName := by
  rw [← kindName_stripped first, ← kindName_stripped second]
  exact Reordered.kindName same

theorem Reordered.of_scalar (reordered : Reordered first second) (scalar : first.isContainer = false) :
    second = first := by
  cases reordered with
  | scalar => rfl
  | arr => cases scalar
  | obj => cases scalar

theorem reordered_arr {others : List Json} :
    Reordered (arr items) (arr others) ↔ List.Forall₂ Reordered items others := by
  constructor
  · intro reordered
    cases reordered with
    | scalar scalar => cases scalar
    | arr related => exact related
  · exact .arr

theorem sameStructure_scalar (scalar : first.isContainer = false) :
    SameStructure first second ↔ second = first := by
  rw [SameStructure, stripped_of_scalar scalar]
  constructor
  · intro reordered
    have same : second.stripped = first := reordered.of_scalar scalar
    have plain : second.isContainer = false := by rw [← isContainer_stripped, same, scalar]
    rw [← same, stripped_of_scalar plain]
  · rintro rfl
    rw [stripped_of_scalar scalar]
    exact .scalar scalar

theorem sameStructure_arr {others : List Json} :
    SameStructure (arr items) (arr others) ↔ List.Forall₂ SameStructure items others := by
  rw [SameStructure, stripped, stripped, itemsStripped_eq, itemsStripped_eq, reordered_arr,
    List.forall₂_map_left_iff, List.forall₂_map_right_iff]
  exact Iff.rfl

theorem lookup_map (change : Json → Json) (members : List (String × Json)) (name : String) :
    (members.map fun member => (member.1, change member.2)).lookup name =
      (members.lookup name).map change := by
  induction members with
  | nil => rfl
  | cons member members ih =>
    rw [List.map_cons, List.lookup_cons, List.lookup_cons, ih]
    cases name == member.1 <;> rfl

/-- Objects that correspond name by name have corresponding members in some order. -/
theorem related_of_lookups {related : Json → Json → Prop} (unique : (members.map (·.1)).Nodup)
    (unique' : (others.map (·.1)).Nodup)
    (each : ∀ name, Option.Rel related (members.lookup name) (others.lookup name)) :
    ∃ ordered, ordered.Perm others ∧
      List.Forall₂ (fun member other => member.1 = other.1 ∧ related member.2 other.2)
        members ordered := by
  have counterpart : ∀ member ∈ members, ∃ other, others.lookup member.1 = some other ∧
      related member.2 other := by
    intro member inside
    have pair := each member.1
    rw [lookup_of_mem unique inside] at pair
    generalize others.lookup member.1 = found at pair
    cases pair with
    | some related => exact ⟨_, rfl, related⟩
  -- each member of the first object picks its counterpart in the second one
  let ordered := members.map fun member => (member.1, (others.lookup member.1).getD null)
  have names : ordered.map (·.1) = members.map (·.1) := by
    rw [List.map_map]
    rfl
  refine ⟨ordered, ?_, ?_⟩
  · have nodup : ordered.Nodup := .of_map _ (names ▸ unique)
    refine (List.perm_ext_iff_of_nodup nodup (.of_map _ unique')).mpr fun ⟨name, value⟩ => ?_
    constructor
    · intro inside
      obtain ⟨member, inside, equal⟩ := List.mem_map.mp inside
      obtain ⟨other, found, -⟩ := counterpart member inside
      rw [found] at equal
      cases equal
      exact mem_of_lookup found
    · intro inside
      have pair := each name
      rw [lookup_of_mem unique' inside] at pair
      cases listed : members.lookup name with
      | none =>
        rw [listed] at pair
        cases pair
      | some own =>
        refine List.mem_map.mpr ⟨(name, own), mem_of_lookup listed, ?_⟩
        rw [lookup_of_mem unique' inside]
        rfl
  · refine List.forall₂_map_right_iff.mpr (List.forall₂_same.mpr fun member inside => ?_)
    obtain ⟨other, found, related⟩ := counterpart member inside
    rw [found]
    exact ⟨rfl, related⟩

theorem sameStructure_obj (distinct : (obj members).Distinct) (distinct' : (obj others).Distinct) :
    SameStructure (obj members) (obj others) ↔
      ∀ name, Option.Rel SameStructure ((kept members).lookup name) ((kept others).lookup name) := by
  rw [SameStructure, stripped, stripped, membersStripped_eq, membersStripped_eq]
  constructor
  · intro reordered name
    have stripped := distinct.stripped
    rw [Json.stripped, membersStripped_eq] at stripped
    have pair := reordered.lookup stripped name
    rw [lookup_map, lookup_map] at pair
    generalize (kept members).lookup name = found, (kept others).lookup name = listed at pair
    cases found <;> cases listed <;> cases pair
    · exact .none
    · exact .some (by assumption)
  · intro each
    obtain ⟨ordered, arranged, related⟩ :=
      related_of_lookups (nodup_kept distinct.1) (nodup_kept distinct'.1) each
    exact reordered_of_members related (arranged.map _)

/-- Documents have one fingerprint exactly if they are equal up to annotations and the order of members,
which leaves their kinds, their scalars, the order of their lists and all other members to count. -/
theorem fingerprints_exact (distinct : first.Distinct) (distinct' : second.Distinct) :
    (first.fingerprint = second.fingerprint ↔ SameStructure first second) ∧
    (SameStructure first second → first.kindName = second.kindName) ∧
    (first.isContainer = false → (SameStructure first second ↔ second = first)) ∧
    (∀ items others, first = arr items → second = arr others →
      (SameStructure first second ↔ List.Forall₂ SameStructure items others)) ∧
    ∀ members others, first = obj members → second = obj others →
      (SameStructure first second ↔ ∀ name,
        Option.Rel SameStructure ((kept members).lookup name) ((kept others).lookup name)) := by
  refine ⟨⟨fun same => ?_, fun same => ?_⟩, SameStructure.kindName, sameStructure_scalar, ?_, ?_⟩
  · exact (alike_of_fingerprint distinct distinct' same).sameStructure
  · exact (same.alike distinct distinct').fingerprint
  · rintro items others rfl rfl
    exact sameStructure_arr
  · rintro members others rfl rfl
    exact sameStructure_obj distinct distinct'

def pointedOne : Binary64 := ⟨false, 2 ^ 52, 1022, by decide⟩

def listOf (items : List Json) : List (String × Json) := [
  ("properties", obj [("description", obj [("type", str "string")])]),
  ("items", arr items),
  ("type", str "array")]

def onesList : Json := obj (listOf [int 1, float pointedOne, bool true, null])

def toldList : Json :=
  obj (("description", str "told") :: listOf [int 1, float pointedOne, bool true, null])

def swappedList : Json := obj (listOf [float pointedOne, int 1, bool true, null])

theorem fingerprints_exact_ones :
    toldList.Distinct ∧ onesList.turned.Distinct ∧ swappedList.Distinct ∧
      toldList.fingerprint = onesList.turned.fingerprint ∧
      toldList.fingerprint ≠ swappedList.fingerprint := by
  have told : toldList.Distinct := by
    simp [toldList, listOf, Distinct, MembersDistinct, ItemsDistinct]
  have swapped : swappedList.Distinct := by
    simp [swappedList, listOf, Distinct, MembersDistinct, ItemsDistinct]
  have ones : onesList.Distinct := by
    simp [onesList, listOf, Distinct, MembersDistinct, ItemsDistinct]
  have turned : onesList.turned.Distinct := (reordered_turned onesList).distinct ones
  refine ⟨told, turned, swapped, ?_, fun same => ?_⟩
  · exact (fingerprints_exact told turned).1.mpr (reordered_turned toldList.stripped)
  · have exact := fingerprints_exact told swapped
    have lists := (exact.2.2.2.2 _ _ rfl rfl).mp (exact.1.mp same) "items"
    cases lists with
    | some lists =>
      obtain ⟨first, -⟩ := List.forall₂_cons.mp (sameStructure_arr.mp lists)
      exact absurd first.kindName (by decide)

end Json

end SchemaCatalog
