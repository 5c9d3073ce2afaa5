import SchemaCatalog.Resolver

/-! The values inside a document. Whatever a walk looks at is one of them: properties and items are parts
of values, and definitions are parts of the document. There are no more of them than its weight.
-/
namespace SchemaCatalog

namespace Json

/-- The values right inside a value. -/
def parts : Json → List Json
  | arr items => items
  | obj members => members.map (·.2)
  | _ => []

mutual
/-- The values inside a document at any depth, itself first. -/
def values : Json → List Json
  | arr items => arr items :: itemsValues items
  | obj members => obj members :: membersValues members
  | scalar => [scalar]
def itemsValues : List Json → List Json
  | [] => []
  | item :: rest => values item ++ itemsValues rest
def membersValues : List (String × Json) → List Json
  | [] => []
  | (_, value) :: rest => values value ++ membersValues rest
end

theorem mem_values_self (document : Json) : document ∈ document.values := by
  cases document <;> simp [values]

theorem mem_itemsValues {items : List Json} {item : Json} (inside : item ∈ items) :
    item ∈ itemsValues items := by
  induction items with
  | nil => cases inside
  | cons first rest ih =>
    rw [itemsValues]
    rcases List.mem_cons.mp inside with rfl | inside
    · exact List.mem_append_left _ (mem_values_self item)
    · exact List.mem_append_right _ (ih inside)

theorem mem_membersValues {members : List (String × Json)} {name : String} {value : Json}
    (inside : (name, value) ∈ members) : value ∈ membersValues members := by
  induction members with
  | nil => cases inside
  | cons first rest ih =>
    obtain ⟨other, known⟩ := first
    rw [membersValues]
    rcases List.mem_cons.mp inside with equal | inside
    · cases equal
      exact List.mem_append_left _ (mem_values_self value)
    · exact List.mem_append_right _ (ih inside)

mutual
theorem mem_values_of_part {value part : Json} (inside : part ∈ value.parts) :
    ∀ document : Json, value ∈ document.values → part ∈ document.values
  | arr items, found => by
    rw [values] at found ⊢
    rcases List.mem_cons.mp found with rfl | found
    · exact List.mem_cons_of_mem _ (mem_itemsValues inside)
    · exact List.mem_cons_of_mem _ (mem_itemsValues_of_part inside items found)
  | obj members, found => by
    rw [values] at found ⊢
    rcases List.mem_cons.mp found with rfl | found
    · obtain ⟨member, known, rfl⟩ := List.mem_map.mp inside
      exact List.mem_cons_of_mem _ (mem_membersValues known)
    · exact List.mem_cons_of_mem _ (mem_membersValues_of_part inside members found)
  | null, found | bool _, found | int _, found | float _, found | str _, found => by
    rw [values] at found
    · cases List.mem_singleton.mp found
      cases inside
    · nofun
    · nofun
theorem mem_itemsValues_of_part {value part : Json} (inside : part ∈ value.parts) :
    ∀ items : List Json, value ∈ itemsValues items → part ∈ itemsValues items
  | [], found => nomatch found
  | item :: rest, found => by
    rw [itemsValues] at found ⊢
    rcases List.mem_append.mp found with found | found
    · exact List.mem_append_left _ (mem_values_of_part inside item found)
    · exact List.mem_append_right _ (mem_itemsValues_of_part inside rest found)
theorem mem_membersValues_of_part {value part : Json} (inside : part ∈ value.parts) :
    ∀ members : List (String × Json), value ∈ membersValues members → part ∈ membersValues members
  | [], found => nomatch found
  | (_, known) :: rest, found => by
    rw [membersValues] at found ⊢
    rcases List.mem_append.mp found with found | found
    · exact List.mem_append_left _ (mem_values_of_part inside known found)
    · exact List.mem_append_right _ (mem_membersValues_of_part inside rest found)
end

mutual
theorem length_values : ∀ document : Json, document.values.length ≤ document.weight
  | arr items => by
    have inner := length_itemsValues items
    rw [values, weight, List.length_cons]
    omega
  | obj members => by
    have inner := length_membersValues members
    rw [values, weight, List.length_cons]
    omega
  | str text => by simp [values, weight]
  | null | bool _ | int _ | float _ => by simp [values, weight]
theorem length_itemsValues : ∀ items : List Json, (itemsValues items).length ≤ itemsWeight items
  | [] => Nat.le_refl 0
  | item :: rest => by
    have first := length_values item
    have others := length_itemsValues rest
    rw [itemsValues, itemsWeight, List.length_append]
    omega
theorem length_membersValues :
    ∀ members : List (String × Json), (membersValues members).length ≤ membersWeight members
  | [] => Nat.le_refl 0
  | (name, value) :: rest => by
    have first := length_values value
    have others := length_membersValues rest
    rw [membersValues, membersWeight, List.length_append]
    omega
end

theorem length_le_membersWeight (members : List (String × Json)) :
    members.length ≤ membersWeight members := by
  induction members with
  | nil => exact Nat.le_refl 0
  | cons first rest ih =>
    obtain ⟨name, value⟩ := first
    rw [membersWeight, List.length_cons]
    omega

theorem weight_le_of_mem {members : List (String × Json)} {name : String} {value : Json}
    (inside : (name, value) ∈ members) : value.weight ≤ membersWeight members := by
  induction members with
  | nil => cases inside
  | cons first rest ih =>
    obtain ⟨other, known⟩ := first
    rw [membersWeight]
    rcases List.mem_cons.mp inside with equal | inside
    · cases equal
      omega
    · have later := ih inside
      omega

theorem weight_le_of_item {items : List Json} {item : Json} (inside : item ∈ items) :
    item.weight ≤ itemsWeight items := by
  induction items with
  | nil => cases inside
  | cons first rest ih =>
    rw [itemsWeight]
    rcases List.mem_cons.mp inside with rfl | inside
    · omega
    · have later := ih inside
      omega

theorem weight_lt_of_part {value part : Json} (inside : part ∈ value.parts) :
    part.weight < value.weight := by
  cases value with
  | arr items =>
    have bound : part.weight ≤ itemsWeight items := weight_le_of_item inside
    have whole : (arr items).weight = 1 + itemsWeight items := rfl
    omega
  | obj members =>
    obtain ⟨⟨name, value⟩, known, rfl⟩ := List.mem_map.mp inside
    have bound : value.weight ≤ membersWeight members := weight_le_of_mem known
    have whole : (obj members).weight = 1 + membersWeight members := rfl
    change value.weight < (obj members).weight
    omega
  | _ => cases inside

theorem weight_lt_of_item {items : List Json} {item : Json} (inside : item ∈ items) :
    item.weight < (arr items).weight := by
  have part : item ∈ (arr items).parts := inside
  exact weight_lt_of_part part

theorem part_of_member? {schema value : Json} {name : String}
    (looked : schema.member? name = .ok (some value)) : value ∈ schema.parts := by
  obtain ⟨members, rfl, inside⟩ := member?_eq_ok.mp looked
  exact List.mem_map_of_mem (mem_of_lookup inside)

theorem any_eq_lookup (members : List (String × Json)) (name : String) :
    members.any (·.1 == name) = (members.lookup name).isSome := by
  induction members with
  | nil => rfl
  | cons first members ih =>
    obtain ⟨other, known⟩ := first
    rw [List.any_cons, List.lookup_cons, ih, BEq.comm]
    cases name == other <;> rfl

theorem holds_obj (members : List (String × Json)) (name : String) :
    (obj members).holds name = .ok (members.lookup name).isSome :=
  congrArg Except.ok (any_eq_lookup members name)

theorem holds_of_member? {schema : Json} {name : String} {found : Option Json}
    (looked : schema.member? name = .ok found) : schema.holds name = .ok found.isSome := by
  obtain ⟨members, rfl, rfl⟩ := member?_eq_ok.mp looked
  exact holds_obj members name

theorem lookup_eq_none_of_holds {members : List (String × Json)} {name : String}
    (absent : (obj members).holds name = .ok false) : members.lookup name = none := by
  have flag := Except.ok.inj ((holds_obj members name).symm.trans absent)
  simpa using flag

theorem mem_values_of_member {document : Json} {members : List (String × Json)} {name : String}
    {value : Json} (found : obj members ∈ document.values) (inside : (name, value) ∈ members) :
    value ∈ document.values :=
  mem_values_of_part (List.mem_map_of_mem inside) document found

theorem mem_values_of_lookup {document schema : Json} {name : String} {value : Json}
    (found : schema ∈ document.values) (looked : schema.member? name = .ok (some value)) :
    value ∈ document.values := by
  obtain ⟨members, rfl, inside⟩ := member?_eq_ok.mp looked
  exact mem_values_of_member found (mem_of_lookup inside)

end Json

end SchemaCatalog
