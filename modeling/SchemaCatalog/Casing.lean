import SchemaCatalog.Unicode.Blank
import SchemaCatalog.Unicode.Lower
import SchemaCatalog.Unicode.Upper

/-! Names in camel case. A text is cut at runs of underscores, hyphens and blanks; the pieces are joined
with their first characters in upper case, or all but the first piece's. One character may become
several. The definitions walk the text once, so that joining two texts by a separator is visible in
them as joining two results.
-/
namespace SchemaCatalog.Casing

def isSeparator (c : Char) : Bool := c == '_' || c == '-' || Unicode.isBlank c

/-- The pieces of a text, joined; `starts` tells whether the next character begins a piece. -/
def joined (starts : Bool) : List Char → List Char
  | [] => []
  | c :: rest =>
    if isSeparator c then joined true rest
    else (if starts then Unicode.upper c else [c]) ++ joined false rest

/-- Every piece begins in upper case. -/
def capitalize (text : String) : String := String.ofList (joined true text.toList)

/-- As `capitalize`, with the first character of the result in lower case. -/
def camelize (text : String) : String :=
  match joined true text.toList with
  | [] => ""
  | c :: rest => String.ofList (Unicode.lower c ++ rest)

end SchemaCatalog.Casing
