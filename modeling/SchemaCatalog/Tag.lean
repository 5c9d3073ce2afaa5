/-! Tags classify the value of a property. Some of them need reference semantics wherever the model ends
up; the rest are plain scalars.
-/
namespace SchemaCatalog

inductive Tag
  | array
  | boolean
  | signedInt
  | unsignedInt
  | number
  | boxedNumber
  | string
  | object
  | dynamic
deriving DecidableEq, Repr

namespace Tag

def all : List Tag :=
  [array, boolean, signedInt, unsignedInt, number, boxedNumber, string, object, dynamic]

def name : Tag → String
  | array => "array"
  | boolean => "boolean"
  | signedInt => "signedInt"
  | unsignedInt => "unsignedInt"
  | number => "number"
  | boxedNumber => "boxedNumber"
  | string => "string"
  | object => "object"
  | dynamic => "dynamic"

def ofName? (text : String) : Option Tag := all.find? (·.name == text)

theorem ofName?_name (tag : Tag) : ofName? tag.name = some tag := by cases tag <;> decide

theorem eq_of_name {tag other : Tag} (same : tag.name = other.name) : tag = other := by
  have found := ofName?_name tag
  rw [same, ofName?_name] at found
  exact (Option.some.inj found).symm

def isReferenceLike : Tag → Bool
  | array | boxedNumber | string | object | dynamic => true
  | boolean | signedInt | unsignedInt | number => false

end Tag

end SchemaCatalog
