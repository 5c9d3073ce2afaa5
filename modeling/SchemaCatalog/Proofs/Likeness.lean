import Mathlib.Data.List.Perm.Basic
import SchemaCatalog.Fingerprint
import SchemaCatalog.Json.Lookup
import SchemaCatalog.Proofs.ReadBack
import SchemaCatalog.Proofs.Related
import SchemaCatalog.Proofs.Values

/-! Documents alike, that is with the same structure. They are of one kind, their lists have items alike
at every place, and their objects have the same members alike, in any order, apart from annotations.
Main statement: documents with one fingerprint are alike.
-/
namespace SchemaCatalog

open Fingerprint

namespace Fingerprint

def kept (members : List (String × Json)) : List (String × Json) :=
  members.filter fun member => ! isAnnotation member.1 member.2

theorem perm_insertMember (name : String) (value : Json) (members : List (String × Json)) :
    (insertMember name value members).Perm ((name, value) :: members) := by
  induction members with
  | nil => exact .refl _
  | cons first rest ih =>
    obtain ⟨other, known⟩ := first
    rw [insertMember]
    split
    · exact .refl _
    · exact (ih.cons _).trans (.swap _ _ _)

theorem perm_membersStructure (members : List (String × Json)) :
    (membersStructure members).Perm
      ((kept members).map fun member => (member.1, structureOf member.2)) := by
  induction members with
  | nil => rw [membersStructure]; exact .refl _
  | cons first rest ih =>
    obtain ⟨name, value⟩ := first
    rw [membersStructure, kept, List.filter_cons]
    split
    next noted =>
      rw [if_neg (by simp [noted])]
      exact ih
    next structural =>
      rw [if_pos (by simp [structural])]
      exact (perm_insertMember _ _ _).trans (ih.cons _)

theorem isAnnotation_iff {name : String} {value : Json} :
    isAnnotation name value = true ↔ name = "description" ∧ ∃ text, value = .str text := by
  cases value <;> simp [ isAnnotation]

theorem mem_kept {members : List (String × Json)} {member : String × Json} :
    member ∈ kept members ↔ member ∈ members ∧ isAnnotation member.1 member.2 = false := by
  rw [kept, List.mem_filter, Bool.not_eq_true']

end Fingerprint

namespace Json

variable {items : List Json} {members : List (String × Json)} {name : String} {value : Json}

theorem itemsDistinct_iff : ItemsDistinct items ↔ ∀ item ∈ items, item.Distinct := by
  induction items with
  | nil => simp [ItemsDistinct]
  | cons item items ih => simp [ItemsDistinct, ih]

theorem membersDistinct_iff :
    MembersDistinct members ↔ ∀ name value, (name, value) ∈ members → value.Distinct := by
  induction members with
  | nil => simp [MembersDistinct]
  | cons member members ih =>
    obtain ⟨name, value⟩ := member
    simp only [MembersDistinct, ih, List.mem_cons]
    constructor
    · rintro ⟨first, others⟩ other known (equal | inside)
      · cases equal
        exact first
      · exact others other known inside
    · intro all
      exact ⟨all name value (.inl rfl), fun other known inside => all other known (.inr inside)⟩

theorem distinct_obj : (obj members).Distinct ↔ (members.map (·.1)).Nodup ∧
    ∀ name value, (name, value) ∈ members → value.Distinct := by
  rw [Distinct, membersDistinct_iff]

mutual
theorem Distinct.of_values : ∀ {document : Json}, document.Distinct →
    ∀ value ∈ document.values, value.Distinct
  | arr items, distinct, value, inside => by
    rw [values] at inside
    rcases List.mem_cons.mp inside with rfl | inside
    · exact distinct
    · exact itemsDistinct_of_values distinct value inside
  | obj members, distinct, value, inside => by
    rw [values] at inside
    rcases List.mem_cons.mp inside with rfl | inside
    · exact distinct
    · exact membersDistinct_of_values distinct.2 value inside
  | null, _, value, inside | bool _, _, value, inside | int _, _, value, inside
  | float _, _, value, inside | str _, _, value, inside => by
    rw [values] at inside
    · cases List.mem_singleton.mp inside
      trivial
    · nofun
    · nofun
theorem itemsDistinct_of_values : ∀ {items : List Json}, ItemsDistinct items →
    ∀ value ∈ itemsValues items, value.Distinct
  | [], _, _, inside => nomatch inside
  | item :: items, distinct, value, inside => by
    rw [itemsValues] at inside
    rcases List.mem_append.mp inside with inside | inside
    · exact distinct.1.of_values value inside
    · exact itemsDistinct_of_values distinct.2 value inside
theorem membersDistinct_of_values : ∀ {members : List (String × Json)}, MembersDistinct members →
    ∀ value ∈ membersValues members, value.Distinct
  | [], _, _, inside => nomatch inside
  | (_, known) :: members, distinct, value, inside => by
    rw [membersValues] at inside
    rcases List.mem_append.mp inside with inside | inside
    · exact distinct.1.of_values value inside
    · exact membersDistinct_of_values distinct.2 value inside
end

theorem nodup_kept (distinct : (members.map (·.1)).Nodup) : ((kept members).map (·.1)).Nodup := by
  refine distinct.sublist (List.Sublist.map _ ?_)
  exact List.filter_sublist

mutual
theorem distinct_structureOf : ∀ {value : Json}, value.Distinct → (structureOf value).Distinct
  | arr items, distinct => by
    rw [structureOf]
    exact distinct_itemsStructure distinct
  | obj members, distinct => by
    have permuted := perm_membersStructure members
    rw [structureOf, distinct_obj]
    constructor
    · rw [(permuted.map (·.1)).nodup_iff, List.map_map]
      exact nodup_kept distinct.1
    · intro name value inside
      obtain ⟨⟨other, known⟩, listed, equal⟩ := List.mem_map.mp (permuted.mem_iff.mp inside)
      cases equal
      exact distinct_structures distinct.2 other known (mem_kept.mp listed).1
  | null, _ | bool _, _ | int _, _ | float _, _ | str _, _ => by
    rw [structureOf]
    · trivial
    · nofun
    · nofun
theorem distinct_itemsStructure : ∀ {items : List Json}, ItemsDistinct items →
    ItemsDistinct (itemsStructure items)
  | [], _ => trivial
  | _ :: _, distinct => by
    rw [itemsStructure]
    exact ⟨distinct_structureOf distinct.1, distinct_itemsStructure distinct.2⟩
theorem distinct_structures : ∀ {members : List (String × Json)}, MembersDistinct members →
    ∀ name value, (name, value) ∈ members → (structureOf value).Distinct
  | [], _, _, _, inside => nomatch inside
  | (other, known) :: members, distinct, name, value, inside => by
    have first := distinct_structureOf distinct.1
    have others := distinct_structures distinct.2 name value
    rcases List.mem_cons.mp inside with equal | inside
    · cases equal
      exact first
    · exact others inside
end

/-- Documents that differ in annotations and in the order of members only. -/
structure Alike (first second : Json) : Prop where
  distinct : first.Distinct
  distinct' : second.Distinct
  structured : structureOf first = structureOf second

variable {first second : Json}

theorem Alike.refl (distinct : first.Distinct) : Alike first first := ⟨distinct, distinct, rfl⟩

theorem Alike.symm (alike : Alike first second) : Alike second first :=
  ⟨alike.distinct', alike.distinct, alike.structured.symm⟩

theorem Alike.trans {third : Json} (alike : Alike first second) (further : Alike second third) :
    Alike first third :=
  ⟨alike.distinct, further.distinct', alike.structured.trans further.structured⟩

theorem Alike.fingerprint (alike : Alike first second) : first.fingerprint = second.fingerprint := by
  rw [Json.fingerprint, Json.fingerprint, alike.structured]

/-- Documents with one fingerprint are alike. -/
theorem alike_of_fingerprint (distinct : first.Distinct) (distinct' : second.Distinct)
    (same : first.fingerprint = second.fingerprint) : Alike first second where
  distinct := distinct
  distinct' := distinct'
  structured := render_injective (distinct_structureOf distinct) (distinct_structureOf distinct') same

theorem lookup_of_mem (distinct : (members.map (·.1)).Nodup) (inside : (name, value) ∈ members) :
    members.lookup name = some value := by
  induction members with
  | nil => cases inside
  | cons first members ih =>
    obtain ⟨other, known⟩ := first
    obtain ⟨fresh, distinct⟩ := List.nodup_cons.mp distinct
    rcases List.mem_cons.mp inside with equal | inside
    · cases equal
      exact List.lookup_cons_self
    · have different : (name == other) = false := by
        refine beq_false_of_ne fun same => fresh ?_
        exact List.mem_map.mpr ⟨_, inside, same⟩
      rw [List.lookup_cons, different]
      exact ih distinct inside

theorem alike_items : ∀ {items others : List Json}, ItemsDistinct items → ItemsDistinct others →
    itemsStructure items = itemsStructure others → List.Forall₂ Alike items others
  | [], [], _, _, _ => .nil
  | [], _ :: _, _, _, same => by
    rw [itemsStructure, itemsStructure] at same
    cases same
  | _ :: _, [], _, _, same => by
    rw [itemsStructure, itemsStructure] at same
    cases same
  | _ :: _, _ :: _, distinct, distinct', same => by
    rw [itemsStructure, itemsStructure] at same
    obtain ⟨first, others⟩ := List.cons.inj same
    exact .cons ⟨distinct.1, distinct'.1, first⟩ (alike_items distinct.2 distinct'.2 others)

theorem Alike.of_arr (alike : Alike (arr items) second) :
    ∃ others, second = arr others ∧ List.Forall₂ Alike items others := by
  obtain ⟨distinct, distinct', same⟩ := alike
  cases second with
  | arr others =>
    rw [structureOf, structureOf] at same
    exact ⟨others, rfl, alike_items distinct distinct' (arr.inj same)⟩
  | _ => cases same

/-- Whatever is alike to an object is an object, alike member by member in some order. -/
theorem Alike.of_obj (alike : Alike (obj members) second) :
    ∃ others, second = obj others ∧ ∃ ordered, ordered.Perm (kept others) ∧
      List.Forall₂ (fun member other => member.1 = other.1 ∧ Alike member.2 other.2)
        (kept members) ordered := by
  obtain ⟨distinct, distinct', same⟩ := alike
  cases second with
  | obj others =>
    rw [structureOf, structureOf] at same
    have permuted := (perm_membersStructure members).symm.trans
      (obj.inj same ▸ perm_membersStructure others)
    have written : List.Forall₂ (fun structured member => structured = (member.1, structureOf member.2))
        ((kept others).map fun member => (member.1, structureOf member.2)) (kept others) :=
      List.forall₂_map_left_iff.mpr (List.forall₂_same.mpr fun _ _ => rfl)
    obtain ⟨ordered, related, arranged⟩ := List.perm_comp_forall₂ permuted written
    refine ⟨others, rfl, ordered, arranged, ?_⟩
    rw [List.forall₂_map_left_iff] at related
    refine (forall₂_inside related).imp ?_
    rintro ⟨name, value⟩ ⟨other, known⟩ ⟨inside, listed, equal⟩
    cases (Prod.mk.inj equal).1
    have left := (distinct_obj.mp distinct).2 name value (mem_kept.mp inside).1
    have right := (distinct_obj.mp distinct').2 name known (mem_kept.mp (arranged.mem_iff.mp listed)).1
    exact ⟨rfl, left, right, (Prod.mk.inj equal).2⟩
  | _ => cases same

theorem Alike.of_scalar (alike : Alike first second) (scalar : first.isContainer = false) :
    second = first := by
  obtain ⟨-, -, same⟩ := alike
  have kept : structureOf first = first := by
    cases first with
    | arr => cases scalar
    | obj => cases scalar
    | _ => rfl
  rw [kept] at same
  cases second with
  | arr =>
    rw [same] at scalar
    cases scalar
  | obj =>
    rw [same] at scalar
    cases scalar
  | _ => exact same.symm

theorem Alike.cases (alike : Alike first second) :
    (first.isContainer = false ∧ second = first) ∨
      (∃ items others, first = arr items ∧ second = arr others ∧ List.Forall₂ Alike items others) ∨
      ∃ members others, first = obj members ∧ second = obj others := by
  cases first with
  | arr items =>
    obtain ⟨others, equal, related⟩ := alike.of_arr
    exact .inr (.inl ⟨items, others, rfl, equal, related⟩)
  | obj members =>
    obtain ⟨others, equal, -⟩ := alike.of_obj
    exact .inr (.inr ⟨members, others, rfl, equal⟩)
  | _ => exact .inl ⟨rfl, alike.of_scalar rfl⟩

theorem Alike.text? (alike : Alike first second) : second.text? = first.text? := by
  rcases alike.cases with ⟨-, rfl⟩ | ⟨items, others, rfl, rfl, -⟩ | ⟨members, others, rfl, rfl⟩
  · rfl
  · rfl
  · rfl

theorem any_text?_alike {others : List Json} (related : List.Forall₂ Alike items others) (text : String) :
    others.any (fun item => item.text? == some text) =
      items.any fun item => item.text? == some text := by
  induction related with
  | nil => rfl
  | cons like _ ih => rw [List.any_cons, List.any_cons, ih, like.text?]

theorem Alike.isObject (alike : Alike first second) : second.isObject = first.isObject := by
  rcases alike.cases with ⟨-, rfl⟩ | ⟨items, others, rfl, rfl, -⟩ | ⟨members, others, rfl, rfl⟩
  · rfl
  · rfl
  · rfl

theorem Alike.member {others : List (String × Json)} (alike : Alike (obj members) (obj others))
    (found : members.lookup name = some value) (structural : isAnnotation name value = false) :
    ∃ other, others.lookup name = some other ∧ Alike value other := by
  have distinct := (distinct_obj.mp alike.distinct').1
  obtain ⟨_, ⟨⟩, ordered, arranged, related⟩ := alike.of_obj
  have inside : (name, value) ∈ kept members := mem_kept.mpr ⟨mem_of_lookup found, structural⟩
  obtain ⟨⟨_, other⟩, listed, rfl, like⟩ := forall₂_left related inside
  exact ⟨other, lookup_of_mem distinct (mem_kept.mp (arranged.mem_iff.mp listed)).1, like⟩

/-- Lookups under any other name than that of annotations give alike values, if any. -/
theorem Alike.lookup {others : List (String × Json)} (alike : Alike (obj members) (obj others))
    (plain : name ≠ "description") :
    Option.Rel Alike (members.lookup name) (others.lookup name) := by
  have structural (value : Json) : isAnnotation name value = false := by
    rw [Bool.eq_false_iff]
    exact fun noted => plain (isAnnotation_iff.mp noted).1
  cases found : members.lookup name with
  | some value =>
    obtain ⟨other, equal, like⟩ := alike.member found (structural value)
    rw [equal]
    exact .some like
  | none =>
    cases listed : others.lookup name with
    | none => exact .none
    | some other =>
      obtain ⟨value, equal, -⟩ := alike.symm.member listed (structural other)
      rw [found] at equal
      cases equal

theorem Alike.holds (alike : Alike first second) (plain : name ≠ "description") :
    second.holds name = first.holds name := by
  rcases alike.cases with ⟨-, rfl⟩ | ⟨items, others, rfl, rfl, related⟩ | ⟨members, others, rfl, rfl⟩
  · rfl
  · exact congrArg Except.ok (any_text?_alike related name)
  · have related := alike.lookup plain
    rw [holds_obj, holds_obj]
    generalize members.lookup name = found, others.lookup name = listed at related
    cases related <;> rfl

end Json

end SchemaCatalog
