import Mathlib.Data.List.Nodup
import SchemaCatalog.Proofs.Likeness

/-! Documents that become equal, up to the order of members, once their annotations are dropped. Members
sorted by name are in the same order whatever order they came in, so long as no name occurs twice.
Main statements: documents with one fingerprint become equal in this way, and documents that do have
one fingerprint.
-/
namespace SchemaCatalog

open Fingerprint

namespace Json

mutual
/-- The document without annotations, its members in their order. -/
def stripped : Json → Json
  | arr items => arr (itemsStripped items)
  | obj members => obj (membersStripped members)
  | scalar => scalar
def itemsStripped : List Json → List Json
  | [] => []
  | item :: rest => stripped item :: itemsStripped rest
def membersStripped : List (String × Json) → List (String × Json)
  | [] => []
  | (name, value) :: rest =>
    if isAnnotation name value then membersStripped rest
    else (name, stripped value) :: membersStripped rest
end

/-- Documents that are equal up to the order of members, at every depth. -/
inductive Reordered : Json → Json → Prop
  | scalar {value : Json} (scalar : value.isContainer = false) : Reordered value value
  | arr {items others : List Json} (related : List.Forall₂ Reordered items others) :
      Reordered (arr items) (arr others)
  | obj {members ordered others : List (String × Json)}
      (names : members.map (·.1) = ordered.map (·.1))
      (values : List.Forall₂ Reordered (members.map (·.2)) (ordered.map (·.2)))
      (arranged : ordered.Perm others) : Reordered (obj members) (obj others)

/-- Documents that differ in annotations and in the order of members only. -/
def SameStructure (first second : Json) : Prop := Reordered first.stripped second.stripped

variable {first second value : Json} {items : List Json} {members others : List (String × Json)}

theorem itemsStripped_eq (items : List Json) : itemsStripped items = items.map stripped := by
  induction items with
  | nil => rfl
  | cons item items ih => rw [itemsStripped, ih, List.map_cons]

theorem membersStripped_eq (members : List (String × Json)) :
    membersStripped members = (kept members).map fun member => (member.1, stripped member.2) := by
  induction members with
  | nil => rfl
  | cons member members ih =>
    obtain ⟨name, value⟩ := member
    rw [membersStripped, kept, List.filter_cons]
    split
    next noted =>
      rw [if_neg (by simp [noted])]
      exact ih
    next structural =>
      rw [if_pos (by simp [structural]), List.map_cons, ih]
      rfl

theorem itemsStructure_eq (items : List Json) : itemsStructure items = items.map structureOf := by
  induction items with
  | nil => rfl
  | cons item items ih => rw [itemsStructure, ih, List.map_cons]

theorem stripped_of_scalar (scalar : value.isContainer = false) : value.stripped = value := by
  cases value with
  | arr => cases scalar
  | obj => cases scalar
  | _ => rfl

theorem reordered_of_members {ordered : List (String × Json)}
    (related : List.Forall₂ (fun member other => member.1 = other.1 ∧
      Reordered member.2.stripped other.2.stripped) members ordered)
    (arranged : (ordered.map fun member => (member.1, stripped member.2)).Perm others) :
    Reordered (obj (members.map fun member => (member.1, stripped member.2))) (obj others) := by
  have names : (members.map fun member => (member.1, stripped member.2)).map (·.1) =
      (ordered.map fun member => (member.1, stripped member.2)).map (·.1) := by
    rw [List.map_map, List.map_map]
    exact map_eq_of_forall₂ related fun _ _ both => both.1
  have values : List.Forall₂ Reordered
      ((members.map fun member => (member.1, stripped member.2)).map (·.2))
      ((ordered.map fun member => (member.1, stripped member.2)).map (·.2)) := by
    rw [List.map_map, List.map_map, List.forall₂_map_left_iff, List.forall₂_map_right_iff]
    exact related.imp fun _ _ both => both.2
  exact .obj names values arranged

theorem Alike.sameStructure {first second : Json} (alike : Alike first second) :
    SameStructure first second := by
  rw [SameStructure]
  rcases alike.cases with ⟨scalar, rfl⟩ | ⟨items, others, rfl, rfl, related⟩ |
    ⟨members, others, rfl, rfl⟩
  · rw [stripped_of_scalar scalar]
    exact .scalar scalar
  · rw [stripped, stripped, itemsStripped_eq, itemsStripped_eq]
    refine .arr ?_
    rw [List.forall₂_map_left_iff, List.forall₂_map_right_iff]
    refine (forall₂_inside related).imp ?_
    rintro item other ⟨inside, -, alike⟩
    have := weight_lt_of_item inside
    exact alike.sameStructure
  · obtain ⟨_, ⟨⟩, ordered, arranged, related⟩ := alike.of_obj
    have related : List.Forall₂ (fun member other => member.1 = other.1 ∧
        Reordered member.2.stripped other.2.stripped) (kept members) ordered := by
      refine (forall₂_inside related).imp ?_
      rintro ⟨name, value⟩ ⟨_, other⟩ ⟨inside, -, rfl, alike⟩
      have part : value ∈ (obj members).parts := List.mem_map_of_mem (mem_kept.mp inside).1
      have := weight_lt_of_part part
      exact ⟨rfl, alike.sameStructure⟩
    rw [stripped, stripped, membersStripped_eq, membersStripped_eq]
    exact reordered_of_members related (arranged.map _)
termination_by first.weight

/-- Members in ascending order of their names. -/
def Ascending (members : List (String × Json)) : Prop := members.Pairwise fun one other => one.1 ≤ other.1

theorem ascending_insertMember {name : String} (ascending : Ascending members) (value : Json) :
    Ascending (insertMember name value members) := by
  induction members with
  | nil => exact List.pairwise_singleton _ _
  | cons first rest ih =>
    obtain ⟨other, known⟩ := first
    obtain ⟨least, ascending'⟩ := List.pairwise_cons.mp ascending
    rw [insertMember]
    split
    next before =>
      refine List.pairwise_cons.mpr ⟨fun member inside => ?_, ascending⟩
      rcases List.mem_cons.mp inside with rfl | inside
      · exact before
      · exact String.le_trans before (least member inside)
    next after =>
      have after : other ≤ name := (String.le_total other name).resolve_right after
      refine List.pairwise_cons.mpr ⟨fun member inside => ?_, ih ascending'⟩
      rcases List.mem_cons.mp ((perm_insertMember _ _ _).mem_iff.mp inside) with rfl | inside
      · exact after
      · exact least member inside

theorem ascending_membersStructure (members : List (String × Json)) :
    Ascending (membersStructure members) := by
  induction members with
  | nil => exact List.Pairwise.nil
  | cons member members ih =>
    obtain ⟨name, value⟩ := member
    rw [membersStructure]
    split
    · exact ih
    · exact ascending_insertMember ih _

theorem eq_of_ascending (ascending : Ascending members) (ascending' : Ascending others)
    (distinct : (others.map (·.1)).Nodup) (permuted : members.Perm others) : members = others := by
  refine List.Perm.eq_of_pairwise ?_ ascending ascending' permuted
  intro one other inside inside' before after
  have same : one.1 = other.1 := String.le_antisymm before after
  exact List.inj_on_of_nodup_map distinct (permuted.mem_iff.mp inside) inside' same

mutual
theorem structureOf_stripped : ∀ value : Json, structureOf value.stripped = structureOf value
  | arr items => by rw [stripped, structureOf, structureOf, itemsStructure_stripped]
  | obj members => by rw [stripped, structureOf, structureOf, membersStructure_stripped]
  | null | bool _ | int _ | float _ | str _ => rfl
theorem itemsStructure_stripped :
    ∀ items : List Json, itemsStructure (itemsStripped items) = itemsStructure items
  | [] => rfl
  | item :: items => by
    rw [itemsStripped, itemsStructure, itemsStructure, structureOf_stripped, itemsStructure_stripped]
theorem membersStructure_stripped :
    ∀ members : List (String × Json),
      membersStructure (membersStripped members) = membersStructure members
  | [] => rfl
  | (name, value) :: members => by
    have noted : isAnnotation name value.stripped = isAnnotation name value := by cases value <;> rfl
    rw [membersStripped, membersStructure]
    split
    next => exact membersStructure_stripped members
    next structural =>
      rw [membersStructure, noted, if_neg structural, structureOf_stripped, membersStructure_stripped]
end

theorem Distinct.stripped {value : Json} (distinct : value.Distinct) : value.stripped.Distinct := by
  cases value with
  | arr items =>
    rw [Json.stripped, itemsStripped_eq]
    refine itemsDistinct_iff.mpr fun _ listed => ?_
    obtain ⟨item, inside, rfl⟩ := List.mem_map.mp listed
    have := weight_lt_of_item inside
    exact (itemsDistinct_iff.mp distinct item inside).stripped
  | obj members =>
    rw [Json.stripped, membersStripped_eq, distinct_obj, List.map_map]
    refine ⟨nodup_kept distinct.1, fun name value listed => ?_⟩
    obtain ⟨⟨_, value⟩, kept, ⟨⟩⟩ := List.mem_map.mp listed
    have inside := (mem_kept.mp kept).1
    have part : value ∈ (obj members).parts := List.mem_map_of_mem inside
    have := weight_lt_of_part part
    exact ((distinct_obj.mp distinct).2 _ _ inside).stripped
  | _ => trivial
termination_by value.weight

theorem related_members {related : Json → Json → Prop} {ordered : List (String × Json)}
    (names : members.map (·.1) = ordered.map (·.1))
    (values : List.Forall₂ related (members.map (·.2)) (ordered.map (·.2))) :
    List.Forall₂ (fun member other => member.1 = other.1 ∧ related member.2 other.2)
      members ordered := by
  induction members generalizing ordered with
  | nil =>
    cases ordered with
    | nil => exact .nil
    | cons other ordered => cases names
  | cons member members ih =>
    cases ordered with
    | nil => cases names
    | cons other ordered =>
      obtain ⟨name, names⟩ := List.cons.inj names
      obtain ⟨value, values⟩ := List.forall₂_cons.mp values
      exact .cons ⟨name, value⟩ (ih names values)

theorem isAnnotation_of_reordered (reordered : Reordered first second) (name : String) :
    isAnnotation name first = isAnnotation name second := by
  cases reordered <;> rfl

/-- Documents that are equal up to the order of members have one structure. -/
theorem structureOf_of_reordered {first second : Json} (reordered : Reordered first second)
    (distinct : second.Distinct) : structureOf first = structureOf second := by
  cases reordered with
  | scalar => rfl
  | @arr items others related =>
    rw [structureOf, structureOf, itemsStructure_eq, itemsStructure_eq]
    refine congrArg arr (map_eq_of_forall₂ (forall₂_inside related) ?_)
    rintro item other ⟨inside, listed, reordered⟩
    have := weight_lt_of_item inside
    exact structureOf_of_reordered reordered (itemsDistinct_iff.mp distinct other listed)
  | @obj members ordered others names values arranged =>
    obtain ⟨unique, distinct⟩ := distinct_obj.mp distinct
    have related : List.Forall₂ (fun member other => member.1 = other.1 ∧
        Reordered member.2 other.2) (kept members) (kept ordered) :=
      forall₂_filter (related_members names values) fun one other both => by
        rw [both.1, isAnnotation_of_reordered both.2]
    have equal : (kept members).map (fun member => (member.1, structureOf member.2)) =
        (kept ordered).map fun member => (member.1, structureOf member.2) := by
      refine map_eq_of_forall₂ (forall₂_inside related) ?_
      rintro ⟨name, value⟩ ⟨_, other⟩ ⟨inside, listed, rfl, reordered⟩
      have part : value ∈ (obj members).parts := List.mem_map_of_mem (mem_kept.mp inside).1
      have := weight_lt_of_part part
      have listed := arranged.mem_iff.mp (mem_kept.mp listed).1
      exact congrArg (Prod.mk _) (structureOf_of_reordered reordered (distinct name other listed))
    -- the members of a structure are sorted by name, so those of the same members are in one order
    have permuted : (membersStructure members).Perm (membersStructure others) := by
      refine (perm_membersStructure members).trans ?_
      rw [equal]
      exact ((arranged.filter _).map _).trans (perm_membersStructure others).symm
    have names : ((membersStructure others).map (·.1)).Nodup := by
      rw [((perm_membersStructure others).map (·.1)).nodup_iff, List.map_map]
      exact nodup_kept unique
    rw [structureOf, structureOf, eq_of_ascending (ascending_membersStructure members)
      (ascending_membersStructure others) names permuted]
termination_by first.weight

theorem Reordered.distinct {first second : Json} (reordered : Reordered first second)
    (distinct : first.Distinct) : second.Distinct := by
  cases reordered with
  | scalar => exact distinct
  | arr related =>
    refine itemsDistinct_iff.mpr fun other listed => ?_
    obtain ⟨item, -, inside, -, reordered⟩ := forall₂_right (forall₂_inside related) listed
    have := weight_lt_of_item inside
    exact reordered.distinct (itemsDistinct_iff.mp distinct item inside)
  | obj names values arranged =>
    obtain ⟨unique, distinct⟩ := distinct_obj.mp distinct
    refine distinct_obj.mpr ⟨?_, fun name other listed => ?_⟩
    · rwa [← (arranged.map (·.1)).nodup_iff, ← names]
    · obtain ⟨⟨_, value⟩, inside, rfl, reordered⟩ :=
        forall₂_right (related_members names values) (arranged.mem_iff.mpr listed)
      have part : value ∈ (Json.obj _).parts := List.mem_map_of_mem inside
      have := weight_lt_of_part part
      exact reordered.distinct (distinct _ value inside)
termination_by first.weight

theorem Reordered.alike (reordered : Reordered first second) (distinct : first.Distinct) :
    Alike first second where
  distinct := distinct
  distinct' := reordered.distinct distinct
  structured := structureOf_of_reordered reordered (reordered.distinct distinct)

/-- Lookups give values that are equal up to the order of members, annotations included. -/
theorem Reordered.lookup (reordered : Reordered (.obj members) (.obj others))
    (distinct : (Json.obj members).Distinct) (name : String) :
    Option.Rel Reordered (members.lookup name) (others.lookup name) := by
  have unique := (distinct_obj.mp distinct).1
  have unique' := (distinct_obj.mp (reordered.distinct distinct)).1
  cases reordered with
  | scalar scalar => cases scalar
  | obj names values arranged =>
    have related := related_members names values
    cases found : members.lookup name with
    | some value =>
      obtain ⟨⟨_, other⟩, listed, rfl, reordered⟩ := forall₂_left related (mem_of_lookup found)
      rw [lookup_of_mem unique' (arranged.mem_iff.mp listed)]
      exact .some reordered
    | none =>
      cases listed : others.lookup name with
      | none => exact .none
      | some other =>
        obtain ⟨⟨_, value⟩, inside, rfl, -⟩ :=
          forall₂_right related (arranged.mem_iff.mpr (mem_of_lookup listed))
        rw [lookup_of_mem unique inside] at found
        cases found

mutual
/-- The document with its members the other way round, at every depth. -/
def turned : Json → Json
  | arr items => arr (itemsTurned items)
  | obj members => obj (membersTurned members).reverse
  | scalar => scalar
def itemsTurned : List Json → List Json
  | [] => []
  | item :: rest => turned item :: itemsTurned rest
def membersTurned : List (String × Json) → List (String × Json)
  | [] => []
  | (name, value) :: rest => (name, turned value) :: membersTurned rest
end

theorem names_membersTurned (members : List (String × Json)) :
    members.map (·.1) = (membersTurned members).map (·.1) := by
  induction members with
  | nil => rfl
  | cons member members ih =>
    obtain ⟨name, value⟩ := member
    rw [membersTurned, List.map_cons, List.map_cons, ih]

mutual
theorem reordered_turned : ∀ value : Json, Reordered value value.turned
  | arr items => by
    rw [turned]
    exact .arr (reordered_itemsTurned items)
  | obj members => by
    rw [turned]
    exact .obj (names_membersTurned members) (reordered_membersTurned members)
      (List.reverse_perm _).symm
  | null | bool _ | int _ | float _ | str _ => .scalar rfl
theorem reordered_itemsTurned :
    ∀ items : List Json, List.Forall₂ Reordered items (itemsTurned items)
  | [] => .nil
  | item :: items => .cons (reordered_turned item) (reordered_itemsTurned items)
theorem reordered_membersTurned : ∀ members : List (String × Json),
    List.Forall₂ Reordered (members.map (·.2)) ((membersTurned members).map (·.2))
  | [] => .nil
  | (_, value) :: members => .cons (reordered_turned value) (reordered_membersTurned members)
end

/-- Documents that become equal, up to the order of members, without their annotations are alike. -/
theorem SameStructure.alike (same : SameStructure first second) (distinct : first.Distinct)
    (distinct' : second.Distinct) : Alike first second where
  distinct := distinct
  distinct' := distinct'
  structured := by
    rw [← structureOf_stripped first, ← structureOf_stripped second]
    exact structureOf_of_reordered same distinct'.stripped

end Json

end SchemaCatalog
