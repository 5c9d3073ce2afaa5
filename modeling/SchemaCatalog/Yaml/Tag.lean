import SchemaCatalog.Yaml.Cursor

/-! What may be written around a value: the name of an anchor, a tag, and at the head of a document its
directives. A tag is written in full between angle brackets, or as a handle that a directive binds with
a suffix after it.
-/
namespace SchemaCatalog.Yaml

def isNameChar (c : Char) : Bool := c.isAlphanum || c == '-' || c == '_'

def anchorName (cursor : Cursor) : Except Fault (String × Cursor) :=
  let (name, after) := cursor.step.span isNameChar
  let ended := atGap after.rest || after.rest.head?.any ("?:,]\x7d%@\x60".toList.contains ·)
  if name.isEmpty || !ended then .error .malformed else .ok (String.ofList name, after)

namespace Tag

def isUriChar (c : Char) : Bool :=
  c.isAlphanum || "-;/?:@&=+$,_.!~*'()[]".toList.contains c

/-- The bytes of a run of percent signs, each with two hexadecimal digits after it. -/
def bytes : Nat → Cursor → Except Fault (List UInt8 × Cursor)
  | 0, _ => .error .malformed
  | budget + 1, cursor =>
    match cursor.rest with
    | '%' :: rest =>
      let digits := rest.take 2
      if digits.length < 2 || !digits.all isHexDigit then .error .malformed
      else do
        let (more, after) ← bytes budget (cursor.skip 3)
        return ((hexNumber digits).toUInt8 :: more, after)
    | _ => .ok ([], cursor)

/-- Characters of a tag, escaped ones read as UTF-8. -/
def uriFrom : Nat → Cursor → Except Fault (List Char × Cursor)
  | 0, _ => .error .malformed
  | budget + 1, cursor =>
    let (plain, marked) := cursor.span isUriChar
    if marked.rest.head? = some '%' then do
      let (bytes, next) ← bytes marked.budget marked
      match String.fromUTF8? ⟨bytes.toArray⟩ with
      | none => .error .malformed
      | some text => do
        let (more, after) ← uriFrom budget next
        return (plain ++ text.toList ++ more, after)
    else .ok (plain, marked)

def uri (cursor : Cursor) : Except Fault (String × Cursor) := do
  let (text, after) ← uriFrom cursor.budget cursor
  if after.index = cursor.index then .error .malformed
  return (String.ofList text, after)

/-- A mark alone before a space, else a name between two marks. -/
def handle (cursor : Cursor) : Except Fault (String × Cursor) :=
  let (name, after) := cursor.step.span isNameChar
  if cursor.rest.head? ≠ some '!' then .error .malformed
  else if name.isEmpty ∧ after.rest.head? = some ' ' then .ok ("!", after)
  else if after.rest.head? = some '!' then .ok (String.ofList ('!' :: name ++ ['!']), after.step)
  else .error .malformed

/-- A tag as it is written. Without a handle the suffix is all of it. -/
structure Written where
  handle : Option String
  suffix : String
deriving DecidableEq, Repr

def written (cursor : Cursor) : Except Fault (Written × Cursor) := do
  let (tag, after) : Written × Cursor ←
    match cursor.step.rest with
    | '<' :: _ => do
      let (suffix, last) ← uri (cursor.skip 2)
      if last.rest.head? ≠ some '>' then .error .malformed
      pure (⟨none, suffix⟩, last.step)
    | rest =>
      if atGap rest then pure (⟨none, "!"⟩, cursor.step)
      else if (rest.takeWhile fun c => !(c == ' ' || isBreak c)).contains '!' then do
        let (handle, next) ← handle cursor
        let (suffix, last) ← uri next
        pure (⟨some handle, suffix⟩, last)
      else do
        let (suffix, last) ← uri cursor.step
        pure (⟨some "!", suffix⟩, last)
  if !atEndOrSpace after.rest then .error .malformed
  return (tag, after)

end Tag

inductive Directive
  | version (major : Nat)
  | binding (handle meant : String)
  | other
deriving DecidableEq, Repr

namespace Directive

/-- A decimal number, which may have no more than 4300 digits. -/
def number (cursor : Cursor) : Except Fault (Nat × Cursor) :=
  let (digits, after) := cursor.span Char.isDigit
  if digits.isEmpty then .error .malformed
  else if 4300 < digits.length then .error (.refused .outOfRange)
  else .ok (digits.foldl (fun number c => 10 * number + (c.toNat - 48)) 0, after)

def readVersion (cursor : Cursor) : Except Fault (Directive × Cursor) := do
  let (major, point) ← number cursor.skipSpaces
  if point.rest.head? ≠ some '.' then .error .malformed
  let (_, after) ← number point.step
  if !atEndOrSpace after.rest then .error .malformed
  return (.version major, after)

def readBinding (cursor : Cursor) : Except Fault (Directive × Cursor) := do
  let (handle, space) ← Tag.handle cursor.skipSpaces
  if space.rest.head? ≠ some ' ' then .error .malformed
  let (meant, after) ← Tag.uri space.skipSpaces
  if !atEndOrSpace after.rest then .error .malformed
  return (.binding handle meant, after)

/-- The directive whose percent sign stands at this place, and the line after it. -/
def read (cursor : Cursor) : Except Fault (Directive × Cursor) := do
  let (name, next) := cursor.step.span isNameChar
  if name.isEmpty || !atEndOrSpace next.rest then .error .malformed
  let (directive, after) ←
    if name = "YAML".toList then readVersion next
    else if name = "TAG".toList then readBinding next
    else pure (.other, next.skipWhile fun c => !isBreak c)
  return (directive, ← after.endLine)

end Directive

end SchemaCatalog.Yaml
