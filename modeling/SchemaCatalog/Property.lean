import SchemaCatalog.Check
import SchemaCatalog.Tag

/-! Properties of models: a name that is not empty, a tag, and what is known about the value. A property
is written as an object of its fields and read back from one.
-/
namespace SchemaCatalog

structure Property where
  name : String
  tag : Tag
  optional : Bool
  description : Option String
  /-- the model of the value, for objects -/
  modelName : Option String
  /-- the models and scalars a list may hold, where they differ -/
  elementTypes : List String
  hasProperties : Bool
  named : name ≠ ""
deriving DecidableEq, Repr

namespace Property

def isReferenceLike (property : Property) : Bool := property.tag.isReferenceLike

def dependencies (property : Property) : List String :=
  property.modelName.toList ++ property.elementTypes

def members (property : Property) : List (String × Json) := [
  ("name", .str property.name),
  ("tag", .str property.tag.name),
  ("optional", .bool property.optional),
  ("description", .ofText? property.description),
  ("object_model_name", .ofText? property.modelName),
  ("collection_element_types", .arr (property.elementTypes.map .str)),
  ("has_properties", .bool property.hasProperties)]

def toJson (property : Property) : Json := .obj property.members

def fieldNames : List String :=
  ["name", "tag", "optional", "description", "object_model_name", "collection_element_types",
    "has_properties"]

def checkTag : Json → Check Tag
  | .str text =>
    match Tag.ofName? text with
    | some tag => .ok tag
    | none => Check.complain .notTag
  | _ => Check.complain .notTag

/-- Only name and tag are required; a value is taken to be optional unless it says otherwise. -/
def check : Json → Check Property
  | .obj members =>
    let name := Check.field members "name" none Check.name
    let tag := Check.field members "tag" none checkTag
    let optional := Check.field members "optional" (some true) Check.flag
    let description := Check.field members "description" (some none) Check.optionalText
    let modelName := Check.field members "object_model_name" (some none) Check.optionalText
    let elementTypes :=
      Check.field members "collection_element_types" (some []) (Check.items .notList Check.text)
    let hasProperties := Check.field members "has_properties" (some false) Check.flag
    (name.both (tag.both (optional.both (description.both (modelName.both (elementTypes.both
        (hasProperties.both (Check.noOthers fieldNames members)))))))).map
      fun (name, tag, optional, description, modelName, elementTypes, hasProperties, _) =>
        ⟨name.1, tag, optional, description, modelName, elementTypes, hasProperties, name.2⟩
  | _ => Check.complain (.notObject .property)

def ofJson (data : Json) : Except Failure Property := (check data).verdict .property

end Property

end SchemaCatalog
