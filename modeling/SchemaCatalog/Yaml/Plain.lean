import SchemaCatalog.Yaml.Cursor

/-! Unquoted scalars. One goes on over blanks and line breaks until a colon before a gap, a comment, a tab,
a line of no more indentation than its parent, or a line that separates documents; inside brackets also
until a mark of theirs. Line breaks in it are folded.
-/
namespace SchemaCatalog.Yaml

def isFlowMark (c : Char) : Bool := [',', '[', ']', '\x7b', '\x7d'].contains c

namespace Plain

def reserved : List Char := "-?:,[]\x7b\x7d#&*!|>'\"%@\x60".toList

/-- Whether an unquoted scalar begins here. A dash begins one unless a gap follows, and outside of brackets
so do a question mark and a colon. -/
def starts (inFlow : Bool) : List Char → Bool
  | [] => false
  | c :: rest =>
    !(isSpace c || isBreak c || reserved.contains c) ||
      (!atGap rest && (c == '-' || (!inFlow && (c == '?' || c == ':'))))

def run (inFlow : Bool) : List Char → List Char
  | [] => []
  | c :: rest =>
    if isSpace c || isBreak c || (inFlow && (isFlowMark c || c == '?')) ||
        (c == ':' && (atGap rest || (inFlow && rest.head?.any isFlowMark)))
    then [] else c :: run inFlow rest

/-- What stands between two runs of a scalar: the text that it adds if the scalar goes on, whether it goes
over the end of a line, and the place after it. Without text the scalar ends before it. -/
structure Gap where
  text : List Char
  broken : Bool
  after : Cursor

/-- The breaks of the empty lines from here on; none if a line separates documents. -/
def emptyLines : Nat → Cursor → Option (List Char) × Cursor
  | 0, cursor => (none, cursor)
  | budget + 1, cursor =>
    if cursor.atDocumentMark then (none, cursor)
    else
      let content := cursor.skipSpaces
      match content.break? with
      | none => (some [], content)
      | some (c, next) =>
        let (more, after) := emptyLines budget next
        (more.map (c :: ·), after)

def gap (cursor : Cursor) : Gap :=
  let (spaces, content) := cursor.span (· == ' ')
  match content.break? with
  | none => ⟨spaces, false, content⟩
  | some (c, next) =>
    match emptyLines next.budget next with
    | (some more, after) => ⟨folded c more, true, after⟩
    | (none, after) => ⟨[], true, after⟩

/-- The runs of a scalar after a gap, and the gap that ends it. -/
def runs (inFlow : Bool) (indent : Int) : Nat → Gap → List Char × Gap
  | 0, before => ([], before)
  | budget + 1, before =>
    let text := run inFlow before.after.rest
    if text.isEmpty || text.head? = some '#' then ([], before)
    else
      let after := gap (before.after.skip text.length)
      if after.text.isEmpty || after.after.rest.head? = some '#' ||
          (!inFlow && after.after.column < indent) then (before.text ++ text, after)
      else
        let (more, last) := runs inFlow indent budget after
        (before.text ++ text ++ more, last)

/-- The scalar at a place inside a parent of the given indentation, whether it ends at the end of a line,
and the place after it. -/
def read (inFlow : Bool) (parent : Int) (cursor : Cursor) : List Char × Bool × Cursor :=
  let (text, last) := runs inFlow (parent + 1) cursor.budget ⟨[], false, cursor⟩
  (text, last.broken, last.after)

end Plain

end SchemaCatalog.Yaml
