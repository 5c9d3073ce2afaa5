import SchemaCatalog.Yaml.Cursor

/-! Scalars of indented lines, after a bar or a greater-than sign. The lines stand for themselves, less their
common indentation; after the sign, breaks between lines that begin with no blank are folded. What
becomes of the breaks at the end is said by the header, and so may be the indentation.
-/
namespace SchemaCatalog.Yaml.Literal

/-- Which of the breaks after the last line are kept: one, none or all. -/
inductive Ending
  | clip
  | strip
  | keep
deriving DecidableEq, Repr

structure Header where
  ending : Ending := .clip
  indentation : Option Nat := none

def ending? : List Char → Option Ending
  | '+' :: _ => some .keep
  | '-' :: _ => some .strip
  | _ => none

def indentation? : List Char → Option Nat
  | c :: _ => if c.isDigit then some (c.toNat - '0'.toNat) else none
  | [] => none

/-- The header after its first mark, and the line after it. An indentation is never zero. -/
def header (cursor : Cursor) : Except Fault (Header × Cursor) := do
  let (header, after) : Header × Cursor :=
    match ending? cursor.rest, indentation? cursor.rest with
    | some ending, _ =>
      match indentation? cursor.step.rest with
      | none => (⟨ending, none⟩, cursor.step)
      | indentation => (⟨ending, indentation⟩, cursor.skip 2)
    | none, some indentation =>
      match ending? cursor.step.rest with
      | none => (⟨.clip, indentation⟩, cursor.step)
      | some ending => (⟨ending, indentation⟩, cursor.skip 2)
    | none, none => (⟨.clip, none⟩, cursor)
  if header.indentation = some 0 || !atEndOrSpace after.rest then .error .malformed
  return (header, ← after.endLine)

/-- The breaks of the empty lines from here on, and the first line that is none, less its indentation. -/
def emptyLines (indent : Nat) : Nat → Cursor → List Char × Cursor
  | 0, cursor => ([], cursor)
  | budget + 1, cursor =>
    let spaces := (cursor.rest.takeWhile (· == ' ')).length
    let content := cursor.skip (min spaces (indent - cursor.column))
    match content.break? with
    | none => ([], content)
    | some (c, next) =>
      let (more, after) := emptyLines indent budget next
      (c :: more, after)

/-- The widest indentation of the empty lines from here on and of the first line that is none. -/
def widest : Nat → Cursor → Nat
  | 0, _ => 0
  | budget + 1, cursor =>
    let content := cursor.skipSpaces
    let here := if content.index = cursor.index then 0 else content.column
    match content.break? with
    | none => here
    | some (_, next) => max here (widest budget next)

/-- The lines of a scalar, the last of them with its own break and those of the empty lines after it. -/
structure Lines where
  text : List Char
  last : List Char
  breaks : List Char
  after : Cursor

def lines (folds : Bool) (indent : Nat) : Nat → List Char → Cursor → Lines
  | 0, breaks, cursor => ⟨[], [], breaks, cursor⟩
  | budget + 1, breaks, cursor =>
    if cursor.column ≠ indent ∨ cursor.rest.isEmpty then ⟨[], [], breaks, cursor⟩
    else
      let (line, lineEnd) := cursor.span fun c => !isBreak c
      let (last, next) := lineEnd.break?.elim ([], lineEnd) fun (c, next) => ([c], next)
      let (more, content) := emptyLines indent next.budget next
      if content.column = indent ∧ !content.rest.isEmpty then
        let isText := fun (text : List Char) => !text.head?.any isSpace
        let joint :=
          if folds && last == ['\n'] && isText line && isText content.rest then
            if more.isEmpty then [' '] else []
          else last
        let others := lines folds indent budget more content
        { others with text := breaks ++ line ++ joint ++ others.text }
      else ⟨breaks ++ line, last, more, content⟩

/-- The scalar whose mark stands at this place, inside a parent of the given indentation, and the place
after it. -/
def read (folds : Bool) (parent : Int) (cursor : Cursor) : Except Fault (List Char × Cursor) := do
  let (header, content) ← header cursor.step
  let budget := content.budget
  let least := max 1 (parent + 1).toNat
  let indent := match header.indentation with
    | some indentation => least + indentation - 1
    | none => max least (widest budget content)
  let (breaks, first) := emptyLines indent budget content
  let lines := lines folds indent budget breaks first
  let ending := match header.ending with
    | .strip => []
    | .clip => lines.last
    | .keep => lines.last ++ lines.breaks
  return (lines.text ++ ending, lines.after)

end SchemaCatalog.Yaml.Literal
