import SchemaCatalog.Json.Basic
import SchemaCatalog.Tag

/-! The schema of exported models, as a JSON Schema document of draft 2020-12: what a reader of an export
may rely on.
-/
namespace SchemaCatalog.Contract

def property : Json :=
  .obj [
    ("additionalProperties", .bool false),
    ("description", .str ("One field of a generated model.\n\n" ++
      "Attributes:\n" ++
      "    name: Accessor name, after any name override.\n" ++
      "    tag: Canonical type classification.\n" ++
      "    optional: True if the value may be absent or null.\n" ++
      "    description: Human text carried through from the schema.\n" ++
      "    object_model_name: Name of the referenced model (object tags only).\n" ++
      "    collection_element_types: Element type names (array tags only).\n" ++
      "        Each entry is a model name or a scalar tag value. Empty when\n" ++
      "        the element type is a single homogeneous scalar.\n" ++
      "    has_properties: True when an object property points at a\n" ++
      "        registered model rather than an anonymous object.\n\n" ++
      "Example:\n" ++
      "    >>> prop = Property(name=\"count\", tag=PropertyTag.signed_int, " ++
      "optional=False)\n" ++
      "    >>> prop.is_reference_like\n" ++
      "    False")),
    ("properties", .obj [
      ("name", .obj [
        ("description", .str "Accessor / field name"),
        ("minLength", .int 1),
        ("title", .str "Name"),
        ("type", .str "string")]),
      ("tag", .obj [
        ("$ref", .str "#/$defs/PropertyTag"),
        ("description", .str "Canonical type tag")]),
      ("optional", .obj [
        ("default", .bool true),
        ("description", .str "Value may be absent or null"),
        ("title", .str "Optional"),
        ("type", .str "boolean")]),
      ("description", .obj [
        ("anyOf", .arr [.obj [("type", .str "string")], .obj [("type", .str "null")]]),
        ("default", .null),
        ("description", .str "Schema description"),
        ("title", .str "Description")]),
      ("object_model_name", .obj [
        ("anyOf", .arr [.obj [("type", .str "string")], .obj [("type", .str "null")]]),
        ("default", .null),
        ("description", .str "Referenced model name, object tags only"),
        ("title", .str "Object Model Name")]),
      ("collection_element_types", .obj [
        ("default", .arr []),
        ("description", .str "Element type names in declaration order, array tags only"),
        ("items", .obj [("type", .str "string")]),
        ("title", .str "Collection Element Types"),
        ("type", .str "array")]),
      ("has_properties", .obj [
        ("default", .bool false),
        ("description", .str "Object property refers to a registered model"),
        ("title", .str "Has Properties"),
        ("type", .str "boolean")])]),
    ("required", .arr [.str "name", .str "tag"]),
    ("title", .str "Property"),
    ("type", .str "object")]

def tag : Json :=
  .obj [
    ("description", .str ("Canonical type classification of a property.\n\n" ++
      "Values are the tag names used in collection element types and\n" ++
      "dependency sets (e.g. ``\"string\"``, ``\"boxedNumber\"``).")),
    ("enum", .arr (Tag.all.map fun tag => .str tag.name)),
    ("title", .str "PropertyTag"),
    ("type", .str "string")]

def name : Json :=
  .obj [
    ("description", .str "Unique model name"),
    ("minLength", .int 1),
    ("title", .str "Name"),
    ("type", .str "string")]

def properties : Json :=
  .obj [
    ("type", .str "array"),
    ("items", .obj [("$ref", .str "#/$defs/Property")]),
    ("default", .arr []),
    ("description", .str "Properties in declaration order"),
    ("title", .str "Properties")]

def dependencies : Json :=
  .obj [
    ("description", .str "Referenced model names and scalar tags"),
    ("items", .obj [("type", .str "string")]),
    ("title", .str "Dependencies"),
    ("type", .str "array"),
    ("uniqueItems", .bool true)]

def model : Json := .obj [
  ("$defs", .obj [("Property", property), ("PropertyTag", tag)]),
  ("additionalProperties", .bool false),
  ("description", .str ("One generated named type.\n\n" ++
    "Attributes:\n" ++
    "    name: Name unique within one resolution run.\n" ++
    "    properties: Properties in schema declaration order.\n" ++
    "    dependencies: Model names and scalar tags referenced by properties.")),
  ("properties", .obj [
    ("name", name), ("properties", properties), ("dependencies", dependencies)]),
  ("required", .arr [.str "name"]),
  ("title", .str "Model"),
  ("type", .str "object"),
  ("$schema", .str "https://json-schema.org/draft/2020-12/schema"),
  ("$id", .str "https://schemodel.dev/schemas/model.schema.json")]

end SchemaCatalog.Contract
