import SchemaCatalog.Proofs.Places
import SchemaCatalog.Proofs.Transparency

/-! Several schemas for the elements of a list, which stand in a list themselves or under a key of their
own. The two forms are walked through along different paths, but paths are only told. Main statement:
both forms come to the same elements and leave the same registry, or fail alike but for the place.
-/
namespace SchemaCatalog

namespace Resolver

variable {resolver : Resolver} {parent key path : String} {entries : List Json}
  {members : List (String × Json)}

theorem play_elsewhere {α : Type} {first second : Script α} (elsewhere : first.Elsewhere second)
    (budget : Nat) (enclosing : List String) (progress : Progress) :
    let one := (first.play (resolver.register budget enclosing)).run progress
    let two := (second.play (resolver.register budget enclosing)).run progress
    Elsewhere one.1 two.1 ∧ two.2.registry = one.2.registry := by
  obtain ⟨outcomes, registries⟩ := resolver.beside_elsewhere.play elsewhere budget enclosing
    (.refl progress.registry)
  exact ⟨outcomes, registries.eq⟩

theorem elementsOf_several (offered : members.lookup "anyOf" = some (.arr entries)) :
    resolver.elementsOf parent key path (.obj members) =
      resolver.alternatives parent key (path ++ "/anyOf") 0 entries := by
  unfold elementsOf
  dsimp only
  rw [offered]

/-- A list is no union of type names if one of its entries is no text. -/
theorem elementsOf_mixed (mixed : ∃ entry ∈ entries, entry.text? = none) :
    resolver.elementsOf parent key path (.arr entries) =
      resolver.alternatives parent key path 0 entries := by
  obtain ⟨entry, inside, schema⟩ := mixed
  have spelled : ¬ entries.all (·.text?.isSome) = true := fun all => by
    have text := List.all_eq_true.mp all entry inside
    rw [schema] at text
    cases text
  unfold elementsOf
  exact if_neg spelled

theorem elementsOf_none :
    resolver.elementsOf parent key path (.arr []) = resolver.alternatives parent key path 0 [] := rfl

theorem elsewhere_several (several : entries = [] ∨ ∃ entry ∈ entries, entry.text? = none)
    (offered : members.lookup "anyOf" = some (.arr entries)) (parent key path path' : String) :
    Script.Elsewhere (resolver.elementsOf parent key path (.arr entries))
      (resolver.elementsOf parent key path' (.obj members)) := by
  rw [elementsOf_several offered]
  rcases several with rfl | mixed
  · rw [elementsOf_none]
    exact resolver.elsewhere_alternatives _ _ _ _ _ _
  · rw [elementsOf_mixed mixed]
    exact resolver.elsewhere_alternatives _ _ _ _ _ _

/-- Alternatives for the elements of a list are treated as a list of schemas for them is, unless that is
short for a union of types, whatever the registry and wherever the lists stand. -/
theorem alternatives_like_list {items list list' : Json}
    (several : entries = [] ∨ ∃ entry ∈ entries, entry.text? = none)
    (offered : items.member? "anyOf" = .ok (some (.arr entries)))
    (listed : list.member? "items" = .ok (some (.arr entries)))
    (listed' : list'.member? "items" = .ok (some items))
    (parent key path path' : String) (budget : Nat) (enclosing : List String) (progress : Progress) :
    let one := ((resolver.elements parent key path list).play
      (resolver.register budget enclosing)).run progress
    let two := ((resolver.elements parent key path' list').play
      (resolver.register budget enclosing)).run progress
    Elsewhere one.1 two.1 ∧ two.2.registry = one.2.registry := by
  obtain ⟨members, rfl, found⟩ := Json.member?_eq_ok.mp offered
  refine play_elsewhere ?_ budget enclosing progress
  unfold elements
  rw [listed, listed']
  exact elsewhere_several several found parent key (path ++ "/items") (path' ++ "/items")

/-- A reference to a schema with a model, null, a type name and a schema with a model of its own. -/
def assortedSchemas : List Json := [
  .obj [("$ref", .str "#/definitions/link")], .obj [("type", .str "null")], .str "integer",
  .obj [("type", .str "object"), ("properties", .obj [("flag", .obj [("type", .str "boolean")])])]]

theorem alternatives_like_list_assorted :
    let resolver : Resolver := ⟨linkedDocument, {}⟩
    let one := ((resolver.elements "Root" "key" "#" (listOf (.arr assortedSchemas))).play
      (resolver.register 9 [])).run {}
    let two := ((resolver.elements "Root" "key" "#/properties/key"
      (listOf (.obj [("anyOf", .arr assortedSchemas)]))).play (resolver.register 9 [])).run {}
    one.1 = .ok ⟨["LinkModel", "signedInt", "RootKeyItem4Model"], true⟩ ∧
      one.2.registry.names = ["LinkModel", "RootKeyItem4Model"] ∧
      Elsewhere one.1 two.1 ∧ two.2.registry = one.2.registry := by
  have mixed : ∃ entry ∈ assortedSchemas, entry.text? = none := ⟨_, List.mem_cons_self, rfl⟩
  refine ⟨by decide +kernel, by decide +kernel, ?_⟩
  exact alternatives_like_list (.inr mixed) rfl rfl rfl "Root" "key" "#" "#/properties/key" 9 [] {}

end Resolver

end SchemaCatalog
