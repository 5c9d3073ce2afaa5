import SchemaCatalog.Yaml.Base64
import SchemaCatalog.Yaml.Number
import SchemaCatalog.Yaml.Timestamp

/-! What YAML 1.1 values stand for. A value has a tag, which an unquoted scalar takes from its spelling:
words for null and for flags, numbers and dates are recognised, and everything else is text. Of values
other than texts only the kind is kept.
-/
namespace SchemaCatalog.Yaml

/-- The tags of values; what has another cannot be read, nor can the marks for merging and for default values
where they mean nothing. -/
inductive CoreTag
  | null
  | flag
  | whole
  | real
  | timestamp
  | text
  | binary
  | list
  | mapping
  | set
  | orderedMapping
  | pairs
  | merge
  | default
  | other
deriving DecidableEq, Repr

/-- The kinds of value that tags stand for. -/
inductive Shape
  | null
  | flag
  | whole
  | real
  | date
  | moment
  | text (value : Option String)
  | bytes (value : Option String)
  | list
  | set
  | mapping
deriving DecidableEq, Repr

namespace Shape

/-- The kinds, by the names that messages use for them. -/
def name : Shape → String
  | null => "NoneType"
  | flag => "bool"
  | whole => "int"
  | real => "float"
  | date => "date"
  | moment => "datetime"
  | text _ => "str"
  | bytes _ => "bytes"
  | list => "list"
  | set => "set"
  | mapping => "dict"

def isKey : Shape → Bool
  | list | set | mapping => false
  | _ => true

end Shape

namespace CoreTag

def names : List (String × CoreTag) := [
  ("null", null), ("bool", flag), ("int", whole), ("float", real), ("timestamp", timestamp),
  ("str", text), ("binary", binary), ("seq", list), ("map", mapping), ("set", set),
  ("omap", orderedMapping), ("pairs", pairs), ("merge", merge), ("value", default)]

def scope : String := "tag:yaml.org,2002:"

def ofName (name : String) : CoreTag :=
  ((names.find? fun entry => scope ++ entry.1 = name).map (·.2)).getD other

def nullWords : List String := ["~", "null", "Null", "NULL"]

def flagWords : List String := [
  "yes", "Yes", "YES", "no", "No", "NO", "true", "True", "TRUE", "false", "False", "FALSE",
  "on", "On", "ON", "off", "Off", "OFF"]

/-- Dates that look like one have two digits for the month and the day; moments need not. -/
def looksLikeTimestamp (text : List Char) : Bool :=
  match Timestamp.ofChars? text with
  | some found => found.clock.isSome || text.length = 10
  | none => false

/-- The tag of an unquoted text. One line feed at its end does not matter. -/
def ofText (text : List Char) : CoreTag :=
  let line := if text.getLast? = some '\n' then text.dropLast else text
  let word := String.ofList line
  if text.isEmpty || nullWords.contains word then null
  else if flagWords.contains word then flag
  else if Real.looksLike line then real
  else if Whole.looksLike line then whole
  else if looksLikeTimestamp line then timestamp
  else if word = "<<" then merge
  else if word = "=" then default
  else if ["!", "&", "*"].contains word then other
  else .text

def shape? : CoreTag → Option Shape
  | list | orderedMapping | pairs => some .list
  | mapping => some .mapping
  | set => some .set
  | _ => none

def utf8? (bytes : List UInt8) : Option String := String.fromUTF8? ⟨bytes.toArray⟩

/-- A timestamp; a line feed at its end does not matter. -/
def readTimestamp (text : List Char) : Except Fault Shape :=
  match Timestamp.ofChars? (if text.getLast? = some '\n' then text.dropLast else text) with
  | none => .error (.refused .undated)
  | some found =>
    if found.Valid then .ok (if found.clock.isSome then .moment else .date)
    else .error (.refused .outOfRange)

/-- The value of a scalar that has this tag. -/
def read (tag : CoreTag) (spelling : Spelling) : Except Fault Shape :=
  let number := fun (misuse : Option Misuse) (shape : Shape) =>
    misuse.elim (.ok shape) fun cause => .error (.refused cause)
  match tag with
  | null => .ok .null
  | flag =>
    let word := String.ofList (spelling.chars.map Char.toLower)
    if flagWords.contains word then .ok .flag else .error (.refused .unknownFlag)
  | whole => number (Whole.misuse? spelling.chars) .whole
  | real => number (Real.misuse? spelling.chars) .real
  | timestamp => readTimestamp spelling.chars
  | .text => .ok (.text spelling.text?)
  | binary =>
    if spelling.chars.all fun c => c.toNat < 128 then
      match Base64.decode? spelling.chars with
      | some bytes => .ok (.bytes (utf8? bytes))
      | none => .error .malformed
    else .error .malformed
  | _ => .error .malformed

end CoreTag

end SchemaCatalog.Yaml
