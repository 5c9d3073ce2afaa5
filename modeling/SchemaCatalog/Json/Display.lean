import SchemaCatalog.Json.Basic
import SchemaCatalog.Number.Shortest
import SchemaCatalog.Text.Quoted

/-! Values as messages show them: texts between quotation marks, lists and objects in brackets with a
comma and a blank between entries, in their own order. A text that is the whole value can also be
shown bare.
-/
namespace SchemaCatalog.Json

mutual
def quoted : Json → String
  | null => "None"
  | bool true => "True"
  | bool false => "False"
  | int value => toString value
  | float value => value.text
  | str text => Text.quoted text
  | arr items => "[" ++ ", ".intercalate (itemsQuoted items) ++ "]"
  | obj members => "\x7b" ++ ", ".intercalate (membersQuoted members) ++ "\x7d"
def itemsQuoted : List Json → List String
  | [] => []
  | item :: rest => quoted item :: itemsQuoted rest
def membersQuoted : List (String × Json) → List String
  | [] => []
  | (name, value) :: rest => (Text.quoted name ++ ": " ++ quoted value) :: membersQuoted rest
end

/-- A text as it is, any other value as it is quoted. -/
def display : Json → String
  | str text => text
  | value => quoted value

end SchemaCatalog.Json
