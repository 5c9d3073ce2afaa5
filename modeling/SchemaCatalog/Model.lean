import SchemaCatalog.NameSet
import SchemaCatalog.Property

/-! Models: named types with their properties in the order of declaration, and the set of names that
the properties depend on. A model is written as an object and read back from one; its dependencies
are a list in ascending order when written, and any list when read.
-/
namespace SchemaCatalog

structure Model where
  name : String
  properties : List Property
  dependencies : NameSet
  named : name ≠ ""
deriving Repr

/-- Models are equal if their data is; the proof that they are named does not count. -/
instance : DecidableEq Model := fun first second =>
  decidable_of_iff (first.name = second.name ∧ first.properties = second.properties ∧
    first.dependencies = second.dependencies) <| by
  constructor
  · obtain ⟨name, properties, dependencies, named⟩ := first
    rintro ⟨rfl, rfl, rfl⟩
    rfl
  · rintro rfl
    exact ⟨rfl, rfl, rfl⟩

namespace Model

def propertyNames (model : Model) : List String := model.properties.map (·.name)

def property? (model : Model) (name : String) : Option Property :=
  model.properties.find? (·.name == name)

def ofProperties (name : String) (properties : List Property) : Except Failure Model :=
  if named : name ≠ "" then
    .ok ⟨name, properties, NameSet.ofList (properties.flatMap Property.dependencies), named⟩
  else .error (.nameless .model)

def toJson (model : Model) : Json := .obj [
  ("name", .str model.name),
  ("properties", .arr (model.properties.map Property.toJson)),
  ("dependencies", .arr (model.dependencies.toList.map .str))]

def fieldNames : List String := ["name", "properties", "dependencies"]

def check : Json → Check Model
  | .obj members =>
    let name := Check.field members "name" none Check.name
    let properties :=
      Check.field members "properties" (some []) (Check.items .notList Property.check)
    let dependencies :=
      Check.field members "dependencies" (some []) (Check.items .notSet Check.text)
    (name.both (properties.both (dependencies.both (Check.noOthers fieldNames members)))).map
      fun (⟨name, named⟩, properties, dependencies, _) =>
        ⟨name, properties, NameSet.ofList dependencies, named⟩
  | _ => Check.complain (.notObject .model)

def ofJson (data : Json) : Except Failure Model := (check data).verdict .model

end Model

end SchemaCatalog
