import SchemaCatalog.Json.Basic
import SchemaCatalog.Json.Escape
import SchemaCatalog.Number.Shortest

/-! JSON text in ASCII, in two layouts: on one line without blanks, and indented by two blanks per level
with one item or member to a line. The layouts differ only in the blanks between tokens.
-/
namespace SchemaCatalog.Json

inductive Layout
  | compact
  | indented
deriving DecidableEq, Repr

/-- The blanks before an item at a depth, and before the bracket that closes a level. -/
def Layout.gap : Layout → Nat → List Char
  | compact, _ => []
  | indented, depth => '\n' :: List.replicate (2 * depth) ' '

def Layout.colon : Layout → List Char
  | compact => [':']
  | indented => [':', ' ']

def writeText (text : String) (rest : List Char) : List Char :=
  '"' :: escape text.toList ++ '"' :: rest

mutual
def write (layout : Layout) (depth : Nat) : Json → List Char → List Char
  | null, rest => "null".toList ++ rest
  | bool true, rest => "true".toList ++ rest
  | bool false, rest => "false".toList ++ rest
  | int value, rest => (toString value).toList ++ rest
  | float value, rest => value.text.toList ++ rest
  | str text, rest => writeText text rest
  | arr [], rest => '[' :: ']' :: rest
  | arr (item :: items), rest =>
    '[' :: layout.gap (depth + 1) ++ write layout (depth + 1) item
      (writeItems layout (depth + 1) items (layout.gap depth ++ ']' :: rest))
  | obj [], rest => '\x7b' :: '\x7d' :: rest
  | obj ((name, value) :: members), rest =>
    '\x7b' :: layout.gap (depth + 1) ++ writeText name (layout.colon ++
      write layout (depth + 1) value
        (writeMembers layout (depth + 1) members (layout.gap depth ++ '\x7d' :: rest)))
def writeItems (layout : Layout) (depth : Nat) : List Json → List Char → List Char
  | [], rest => rest
  | item :: items, rest =>
    ',' :: layout.gap depth ++ write layout depth item (writeItems layout depth items rest)
def writeMembers (layout : Layout) (depth : Nat) : List (String × Json) → List Char → List Char
  | [], rest => rest
  | (name, value) :: members, rest =>
    ',' :: layout.gap depth ++ writeText name (layout.colon ++ write layout depth value
      (writeMembers layout depth members rest))
end

def render (layout : Layout) (value : Json) : String := String.ofList (write layout 0 value [])

end SchemaCatalog.Json
