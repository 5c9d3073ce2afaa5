import SchemaCatalog.Yaml.Cursor

/-! Quoted scalars. Between single marks every character stands for itself, a doubled mark for one; between
double marks a backslash begins an escape. Line breaks are folded in both, and a backslash before one
joins the lines. No line inside may separate documents.
-/
namespace SchemaCatalog.Yaml.Quoted

def escapes : List (Char × Char) := [
  ('0', '\x00'), ('a', '\x07'), ('b', '\x08'), ('t', '\t'), ('\t', '\t'), ('n', '\n'),
  ('v', '\x0b'), ('f', '\x0c'), ('r', '\r'), ('e', '\x1b'), (' ', ' '), ('"', '"'), ('\\', '\\'),
  ('/', '/'), ('N', '\u0085'), ('_', '\u00a0'), ('L', '\u2028'), ('P', '\u2029')]

def codeWidths : List (Char × Nat) := [('x', 2), ('u', 4), ('U', 8)]

/-- The character of a code. Half of a surrogate pair is a code of none; above the last code there are none. -/
def ofCode (code : Nat) : Except Fault (Option Char) :=
  if code.isValidChar then .ok (some (Char.ofNat code))
  else if code < 0x110000 then .ok none
  else .error (.refused (if code < 0x80000000 then .outOfRange else .tooLarge))

/-- The breaks of the empty lines from here on. -/
def emptyLines : Nat → Cursor → Except Fault (List Char × Cursor)
  | 0, _ => .error .malformed
  | budget + 1, cursor =>
    if cursor.atDocumentMark then .error .malformed
    else
      let content := cursor.skipWhile isSpace
      match content.break? with
      | none => .ok ([], content)
      | some (c, next) => do
        let (more, after) ← emptyLines budget next
        return (c :: more, after)

/-- Blanks, or a line break with the blanks around it. -/
def gap (cursor : Cursor) : Except Fault (List Char × Cursor) := do
  let (spaces, content) := cursor.span isSpace
  match content.break? with
  | none => return (spaces, content)
  | some (c, next) =>
    let (more, after) ← emptyLines next.budget next
    return (folded c more, after)

def escape (cursor : Cursor) : Except Fault (List (Option Char) × Cursor) :=
  match cursor.rest with
  | [] => .error .malformed
  | c :: rest =>
    match escapes.lookup c, codeWidths.lookup c with
    | some meant, _ => .ok ([some meant], cursor.step)
    | none, some width => do
      let digits := rest.take width
      if digits.length < width || !digits.all isHexDigit then .error .malformed
      return ([← ofCode (hexNumber digits)], cursor.skip (width + 1))
    | none, none => do
      if !isBreak c then .error .malformed
      let (more, after) ← emptyLines cursor.budget cursor.step
      return (more.map some, after)

def pieces (mark : Char) : Nat → Cursor → Except Fault (List (Option Char) × Cursor)
  | 0, _ => .error .malformed
  | budget + 1, cursor => do
    match cursor.rest with
    | [] => .error .malformed
    | c :: rest =>
      if c = mark ∧ (mark = '"' ∨ rest.head? ≠ some mark) then return ([], cursor.step)
      let (first, next) ←
        if c = mark then pure ([some c], cursor.skip 2)
        else if c = '\\' ∧ mark = '"' then escape cursor.step
        else if isSpace c || isBreak c then do
          let (text, next) ← gap cursor
          pure (text.map some, next)
        else pure ([some c], cursor.step)
      let (more, after) ← pieces mark budget next
      return (first ++ more, after)

/-- The scalar whose opening mark stands at this place, and the place after it. -/
def read (mark : Char) (cursor : Cursor) : Except Fault (Spelling × Cursor) := do
  let (pieces, after) ← pieces mark cursor.budget cursor.step
  return (.ofPieces pieces, after)

end SchemaCatalog.Yaml.Quoted
