import SchemaCatalog.Misuse

/-! Places in a YAML text. A cursor holds the text that is left and where that begins: how many characters
came before, on which line it is, and how far into it. A byte order mark takes no column. Besides the
line feed, the next-line character and the separators of lines and paragraphs end a line.
-/
namespace SchemaCatalog.Yaml

/-- Why a text cannot be read. -/
inductive Fault
  /-- the text breaks a rule of YAML, or a value does not go with its tag -/
  | malformed
  /-- a scalar is not spelled as its tag demands -/
  | refused (cause : Misuse)
deriving DecidableEq, Repr

def isBreak (c : Char) : Bool := ['\n', '\u0085', '\u2028', '\u2029'].contains c

def isSpace (c : Char) : Bool := c == ' ' || c == '\t'

def isHexDigit (c : Char) : Bool := c.isDigit || ('a' ≤ c && c ≤ 'f') || ('A' ≤ c && c ≤ 'F')

def hexValue (c : Char) : Nat :=
  if c.isDigit then c.toNat - '0'.toNat else c.toLower.toNat - 'a'.toNat + 10

def hexNumber (digits : List Char) : Nat :=
  digits.foldl (fun number digit => 16 * number + hexValue digit) 0

def atLineEnd (text : List Char) : Bool := text.head?.all isBreak

def atGap (text : List Char) : Bool := text.head?.all fun c => isSpace c || isBreak c

def atEndOrSpace (text : List Char) : Bool := text.head?.all fun c => c == ' ' || isBreak c

structure Cursor where
  rest : List Char
  size : Nat
  index : Nat := 0
  line : Nat := 0
  column : Nat := 0
deriving Repr

namespace Cursor

def ofText (text : List Char) : Cursor := { rest := text, size := text.length }

/-- More steps than can be made from here. -/
def budget (cursor : Cursor) : Nat := cursor.size - cursor.index + 1

def step (cursor : Cursor) : Cursor :=
  match cursor.rest with
  | [] => cursor
  | c :: rest =>
    if isBreak c then
      { cursor with rest, index := cursor.index + 1, line := cursor.line + 1, column := 0 }
    else if c = '\ufeff' then { cursor with rest, index := cursor.index + 1 }
    else { cursor with rest, index := cursor.index + 1, column := cursor.column + 1 }

def skip : Nat → Cursor → Cursor
  | 0, cursor => cursor
  | count + 1, cursor => skip count cursor.step

/-- The longest run of such characters from here on, and the place after it. -/
def span (p : Char → Bool) (cursor : Cursor) : List Char × Cursor :=
  let run := cursor.rest.takeWhile p
  (run, cursor.skip run.length)

def skipWhile (p : Char → Bool) (cursor : Cursor) : Cursor := (cursor.span p).2

def skipSpaces (cursor : Cursor) : Cursor := cursor.skipWhile (· == ' ')

/-- Past spaces and the comment after them, up to the end of the line. -/
def skipComment (cursor : Cursor) : Cursor :=
  let comment := cursor.skipSpaces
  if comment.rest.head? = some '#' then comment.skipWhile fun c => !isBreak c else comment

/-- Past a line break, with the character that it stands for. -/
def break? (cursor : Cursor) : Option (Char × Cursor) :=
  match cursor.rest with
  | [] => none
  | c :: _ =>
    if isBreak c then some (if c = '\u0085' then '\n' else c, cursor.step) else none

/-- The next line, if nothing but a comment is left on this one. -/
def endLine (cursor : Cursor) : Except Fault Cursor :=
  let last := cursor.skipComment
  if atLineEnd last.rest then .ok last.step else .error .malformed

def isAt (mark : String) (cursor : Cursor) : Bool :=
  mark.toList.isPrefixOf cursor.rest && atGap (cursor.rest.drop mark.length)

/-- Whether a line that begins here separates documents. -/
def atDocumentMark (cursor : Cursor) : Bool := cursor.isAt "---" || cursor.isAt "..."

end Cursor

/-- What a line break inside a scalar stands for, with the breaks of the empty lines after it. One line
feed is a blank; before empty lines it vanishes; other breaks stay. -/
def folded (first : Char) (more : List Char) : List Char :=
  if first ≠ '\n' then first :: more else if more.isEmpty then [' '] else more

/-- The characters of a scalar. An escape may name one half of a surrogate pair, which is no character; a
replacement then stands for it, and the spelling is not whole. -/
structure Spelling where
  chars : List Char
  whole : Bool := true
deriving DecidableEq, Repr

def Spelling.ofPieces (pieces : List (Option Char)) : Spelling :=
  ⟨pieces.map (·.getD '\ufffd'), pieces.all Option.isSome⟩

def Spelling.text? (spelling : Spelling) : Option String :=
  if spelling.whole then some (String.ofList spelling.chars) else none

end SchemaCatalog.Yaml
