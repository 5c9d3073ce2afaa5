import SchemaCatalog.Yaml.Literal
import SchemaCatalog.Yaml.Plain
import SchemaCatalog.Yaml.Quoted
import SchemaCatalog.Yaml.Tag

/-! The tokens of a YAML text. Indentation becomes tokens that open and close blocks. That a value is a key
shows only at the colon after it, on the same line and within 1024 characters, so a token that may begin
a key is remembered, and the tokens that say so are put before it when the colon comes. What may be a
key is still undecided when the text turns out to be wrong further on; `Tokens` therefore holds only what
is certain by then, and the fault that follows.
-/
namespace SchemaCatalog.Yaml

inductive Token
  | openItems
  | openEntries
  | closeBlock
  | openFlowItems
  | closeFlowItems
  | openFlowEntries
  | closeFlowEntries
  | item
  | comma
  | key
  | value
  | alias (name : String)
  | anchor (name : String)
  | tag (tag : Tag.Written)
  | scalar (spelling : Spelling) (isPlain : Bool)
  | directive (directive : Directive)
  | documentStart
  | documentEnd
  | textEnd
deriving DecidableEq, Repr

structure Tokens where
  list : List Token
  /-- what comes of reading on after the last token -/
  fault : Fault

/-- A token that may begin a key: its number, whether it can be nothing else, and its place. -/
structure KeyStart where
  number : Nat
  required : Bool
  index : Nat
  line : Nat
  column : Nat

/-- The tokens read so far, the newest first, and what the next depends on: the indentation of the blocks
around this place, whether a key may begin here, and the key starts of the brackets around it, the
innermost first. -/
structure Lexing where
  cursor : Cursor
  tokens : List Token := []
  count : Nat := 0
  indent : Int := -1
  outer : List Int := []
  mayKey : Bool := true
  keyStarts : List (Option KeyStart) := [none]

namespace Lexing

def inFlow (lexing : Lexing) : Bool := 1 < lexing.keyStarts.length

def column (lexing : Lexing) : Int := lexing.cursor.column

def emit (token : Token) (lexing : Lexing) : Lexing :=
  { lexing with tokens := token :: lexing.tokens, count := lexing.count + 1 }

def take (width : Nat) (token : Token) (lexing : Lexing) : Lexing :=
  { lexing with cursor := lexing.cursor.skip width }.emit token

def insert (number : Nat) (tokens : List Token) (lexing : Lexing) : Lexing :=
  let (newer, older) := lexing.tokens.splitAt (lexing.count - number)
  { lexing with
    tokens := newer ++ tokens.reverse ++ older, count := lexing.count + tokens.length }

/-- A key does not go over the end of a line, nor over 1024 characters. -/
def isStale (lexing : Lexing) (start : KeyStart) : Bool :=
  start.line ≠ lexing.cursor.line || 1024 < lexing.cursor.index - start.index

/-- Key starts that can still find their colon. -/
def dropStale (lexing : Lexing) : Except Fault Lexing :=
  let stale := fun (start : Option KeyStart) => start.any lexing.isStale
  if lexing.keyStarts.any fun start => stale start && start.any (·.required) then
    .error .malformed
  else
    .ok { lexing with
      keyStarts := lexing.keyStarts.map fun start => if stale start then none else start }

/-- The innermost key start, given up. -/
def dropKey (lexing : Lexing) : Except Fault Lexing :=
  match lexing.keyStarts with
  | some start :: others =>
    if start.required then .error .malformed
    else .ok { lexing with keyStarts := none :: others }
  | _ => .ok lexing

/-- Remember the next token as a key start, if a key may begin here. -/
def startKey (lexing : Lexing) : Except Fault Lexing := do
  if !lexing.mayKey then return lexing
  let lexing ← lexing.dropKey
  let cursor := lexing.cursor
  let required := !lexing.inFlow && lexing.indent = lexing.column
  let start := ⟨lexing.count, required, cursor.index, cursor.line, cursor.column⟩
  return { lexing with keyStarts := some start :: lexing.keyStarts.drop 1 }

/-- Close the blocks that are indented beyond a column. -/
def closeTo (column : Int) (lexing : Lexing) : Lexing :=
  let levels := lexing.indent :: lexing.outer
  match levels.dropWhile (column < ·) with
  | indent :: outer =>
    if lexing.inFlow then lexing
    else
      let closed := levels.length - outer.length - 1
      { lexing with
        indent, outer, count := lexing.count + closed,
        tokens := List.replicate closed .closeBlock ++ lexing.tokens }
  | [] => lexing

/-- Indent to a column, if it is beyond the block at this place. -/
def indentTo (column : Int) (lexing : Lexing) : Lexing :=
  { lexing with indent := column, outer := lexing.indent :: lexing.outer }

/-- Open a block at this place, unless one is open at this column. Keys have to be allowed here. -/
def openBlock (token : Token) (lexing : Lexing) : Except Fault Lexing :=
  if lexing.inFlow then .ok lexing
  else if !lexing.mayKey then .error .malformed
  else if lexing.indent < lexing.column then .ok ((lexing.indentTo lexing.column).emit token)
  else .ok lexing

/-- Past spaces, comments and line breaks. Outside of brackets a key may begin a line. -/
def skipBlank : Nat → Lexing → Lexing
  | 0, lexing => lexing
  | budget + 1, lexing =>
    let cursor := lexing.cursor.skipComment
    match cursor.break? with
    | none => { lexing with cursor }
    | some (_, cursor) =>
      skipBlank budget { lexing with cursor, mayKey := lexing.mayKey || !lexing.inFlow }

def closeAll (lexing : Lexing) : Except Fault Lexing := do
  return { ← (lexing.closeTo (-1)).dropKey with mayKey := false }

/-- A token that may begin a key but after which none begins. -/
def word (read : Cursor → Except Fault (Token × Cursor)) (lexing : Lexing) :
    Except Fault Lexing := do
  let lexing ← lexing.startKey
  let (token, cursor) ← read lexing.cursor
  return { lexing with cursor, mayKey := false }.emit token

def openFlow (token : Token) (lexing : Lexing) : Except Fault Lexing := do
  let lexing ← lexing.startKey
  return { lexing with keyStarts := none :: lexing.keyStarts, mayKey := true }.take 1 token

def closeFlow (token : Token) (lexing : Lexing) : Except Fault Lexing := do
  if !lexing.inFlow then .error .malformed
  let lexing ← lexing.dropKey
  return { lexing with keyStarts := lexing.keyStarts.drop 1, mayKey := false }.take 1 token

def comma (lexing : Lexing) : Except Fault Lexing := do
  return { ← lexing.dropKey with mayKey := true }.take 1 .comma

def item (lexing : Lexing) : Except Fault Lexing := do
  let lexing ← (← lexing.openBlock .openItems).dropKey
  return { lexing with mayKey := true }.take 1 .item

/-- A question mark, after which a key of any form stands. -/
def key (lexing : Lexing) : Except Fault Lexing := do
  let lexing ← (← lexing.openBlock .openEntries).dropKey
  return { lexing with mayKey := !lexing.inFlow }.take 1 .key

/-- A colon. It makes a key of the token remembered as one, perhaps the first of a block; otherwise it
belongs to a question mark, or to no key at all. -/
def value (lexing : Lexing) : Except Fault Lexing :=
  match lexing.keyStarts with
  | some start :: others =>
    let lexing := { lexing with keyStarts := none :: others, mayKey := false }
    let lexing :=
      if !lexing.inFlow && decide (lexing.indent < (start.column : Int)) then
        (lexing.indentTo start.column).insert start.number [.openEntries, .key]
      else lexing.insert start.number [.key]
    .ok (lexing.take 1 .value)
  | _ => do
    let lexing ← lexing.openBlock .openEntries
    return { lexing with mayKey := !lexing.inFlow }.take 1 .value

def literal (folds : Bool) (lexing : Lexing) : Except Fault Lexing := do
  let lexing ← lexing.dropKey
  let (text, cursor) ← Literal.read folds lexing.indent lexing.cursor
  return { lexing with cursor, mayKey := true }.emit (.scalar ⟨text, true⟩ false)

def plain (lexing : Lexing) : Except Fault Lexing := do
  let lexing ← lexing.startKey
  let (text, mayKey, cursor) := Plain.read lexing.inFlow lexing.indent lexing.cursor
  return { lexing with cursor, mayKey }.emit (.scalar ⟨text, true⟩ true)

def quoted (mark : Char) : Lexing → Except Fault Lexing :=
  word fun cursor => do
    let (spelling, cursor) ← Quoted.read mark cursor
    return (.scalar spelling false, cursor)

def anchor (token : String → Token) : Lexing → Except Fault Lexing :=
  word fun cursor => do
    let (name, cursor) ← anchorName cursor
    return (token name, cursor)

def tag : Lexing → Except Fault Lexing :=
  word fun cursor => do
    let (tag, cursor) ← Tag.written cursor
    return (.tag tag, cursor)

def directive (lexing : Lexing) : Except Fault Lexing := do
  let lexing ← lexing.closeAll
  let (directive, cursor) ← Directive.read lexing.cursor
  return { lexing with cursor }.emit (.directive directive)

def begin (lexing : Lexing) (c : Char) (rest : List Char) : Except Fault Lexing :=
  let inFlow := lexing.inFlow
  if c = '%' ∧ lexing.column = 0 then lexing.directive
  else if lexing.column = 0 ∧ lexing.cursor.isAt "---" then do
    return (← lexing.closeAll).take 3 .documentStart
  else if lexing.column = 0 ∧ lexing.cursor.isAt "..." then do
    return (← lexing.closeAll).take 3 .documentEnd
  else if c = '[' then lexing.openFlow .openFlowItems
  else if c = '\x7b' then lexing.openFlow .openFlowEntries
  else if c = ']' then lexing.closeFlow .closeFlowItems
  else if c = '\x7d' then lexing.closeFlow .closeFlowEntries
  else if c = ',' then lexing.comma
  else if c = '-' ∧ atGap rest then lexing.item
  else if c = '?' ∧ (inFlow ∨ atGap rest) then lexing.key
  else if c = ':' ∧ (inFlow ∨ atGap rest) then lexing.value
  else if c = '*' then lexing.anchor .alias
  else if c = '&' then lexing.anchor .anchor
  else if c = '!' then lexing.tag
  else if c = '|' ∧ !inFlow then lexing.literal false
  else if c = '>' ∧ !inFlow then lexing.literal true
  else if c = '\'' ∨ c = '"' then lexing.quoted c
  else if Plain.starts inFlow (c :: rest) then lexing.plain
  else .error .malformed

/-- The next tokens; the flag says whether they are the last. -/
def next (lexing : Lexing) : Except Fault (Lexing × Bool) := do
  let lexing ← (lexing.skipBlank lexing.cursor.budget).dropStale
  let lexing := lexing.closeTo lexing.column
  match lexing.cursor.rest with
  | [] => return ((← lexing.closeAll).emit .textEnd, true)
  | c :: rest => return (← lexing.begin c rest, false)

/-- How many tokens nothing will be put before. -/
def certain (lexing : Lexing) : Nat :=
  lexing.keyStarts.foldl (fun least start => start.elim least fun start => min least start.number)
    lexing.count

/-- Every round but the last goes past a character. -/
def run : Nat → Lexing → Tokens
  | 0, _ => ⟨[], .malformed⟩
  | budget + 1, lexing =>
    match lexing.dropStale with
    | .error fault => ⟨[], fault⟩
    | .ok lexing =>
      match lexing.next with
      | .error fault => ⟨lexing.tokens.reverse.take lexing.certain, fault⟩
      | .ok (lexing, true) => ⟨lexing.tokens.reverse, .malformed⟩
      | .ok (lexing, false) => run budget lexing

end Lexing

/-- The tokens of a text. A byte order mark at its start is passed over. -/
def Tokens.ofText (text : List Char) : Tokens :=
  let start := Cursor.ofText text
  let cursor := if text.head? = some '\ufeff' then start.step else start
  Lexing.run (start.budget + 1) { cursor }

end SchemaCatalog.Yaml
