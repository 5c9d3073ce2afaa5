import SchemaCatalog.Misuse
import SchemaCatalog.Text.Pieces

/-! Relative paths, as texts with slashes between their parts. Empty parts and single dots lead nowhere; two
dots lead to the directory above.
-/
namespace SchemaCatalog.Path

/-- The parts of a path, without empty and idle ones. -/
def parts (path : String) : List (List Char) :=
  (Text.pieces '/' path.toList).filter fun part => part ≠ [] ∧ part ≠ ['.']

/-- The path that goes the same way with nothing idle in it. -/
def normalized (path : String) : String :=
  let parts := parts path
  if parts.isEmpty then "." else "/".intercalate (parts.map String.ofList)

def isUp (part : List Char) : Bool := part == ['.', '.']

def leadsUp (path : String) : Bool := (parts path).all isUp

def misuse? (path : String) : Option Misuse :=
  if path.toList.contains '\x00' then some .outOfRange
  else if (parts path).getLast?.all isUp then some .directory
  else none

end SchemaCatalog.Path
