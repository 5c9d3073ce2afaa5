import SchemaCatalog.Json.Basic

/-! The kinds of value a schema can name, and the kind of a literal. Lists and objects are no literals.
-/
namespace SchemaCatalog

inductive Kind
  | string
  | object
  | array
  | boolean
  | number
  | integer
  | null
deriving DecidableEq, Repr

namespace Kind

def all : List Kind := [string, object, array, boolean, number, integer, null]

def name : Kind → String
  | string => "string"
  | object => "object"
  | array => "array"
  | boolean => "boolean"
  | number => "number"
  | integer => "integer"
  | null => "null"

def ofName? (text : String) : Option Kind := all.find? (·.name == text)

theorem ofName?_name (kind : Kind) : ofName? kind.name = some kind := by cases kind <;> decide

theorem name_of_ofName? {text : String} {kind : Kind} (found : ofName? text = some kind) :
    kind.name = text := by
  have same := List.find?_some found
  exact eq_of_beq same

theorem eq_of_name {kind other : Kind} (same : kind.name = other.name) : kind = other := by
  have found := ofName?_name kind
  rw [same, ofName?_name] at found
  exact (Option.some.inj found).symm

def ofLiteral? : Json → Option Kind
  | .null => some null
  | .bool _ => some boolean
  | .int _ => some integer
  | .float _ => some number
  | .str _ => some string
  | .arr _ | .obj _ => none

/-- Literals carry no bound, so whole ones count as plain numbers. -/
def widened : Kind → Kind
  | integer => number
  | kind => kind

end Kind

end SchemaCatalog
