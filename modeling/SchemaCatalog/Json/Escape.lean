/-! Characters of a JSON string in ASCII. Quotation marks, backslashes, controls and everything outside
ASCII are escaped, above the basic plane as a pair of surrogates; `unescape` reads any valid
spelling back.
-/
namespace SchemaCatalog.Json

def hexDigit (value : Nat) : Char := (Nat.digitChar value)

def hexValue? (c : Char) : Option Nat :=
  if '0' ≤ c ∧ c ≤ '9' then some (c.toNat - 48)
  else if 'a' ≤ c ∧ c ≤ 'f' then some (c.toNat - 87)
  else if 'A' ≤ c ∧ c ≤ 'F' then some (c.toNat - 55)
  else none

def unitEscape (unit : Nat) : List Char :=
  ['\\', 'u', hexDigit (unit / 4096 % 16), hexDigit (unit / 256 % 16), hexDigit (unit / 16 % 16),
    hexDigit (unit % 16)]

def unitValue? (a b c d : Char) : Option Nat := do
  return (← hexValue? a) * 4096 + (← hexValue? b) * 256 + (← hexValue? c) * 16 + (← hexValue? d)

def shortEscape? : Char → Option Char
  | '"' => some '"'
  | '\\' => some '\\'
  | '\n' => some 'n'
  | '\r' => some 'r'
  | '\t' => some 't'
  | '\x08' => some 'b'
  | '\x0c' => some 'f'
  | _ => none

def escapeChar (c : Char) : List Char :=
  match shortEscape? c with
  | some letter => ['\\', letter]
  | none =>
    if 0x20 ≤ c.toNat ∧ c.toNat ≤ 0x7e then [c]
    else if c.toNat < 0x10000 then unitEscape c.toNat
    else
      unitEscape (0xd800 + (c.toNat - 0x10000) / 0x400) ++
        unitEscape (0xdc00 + (c.toNat - 0x10000) % 0x400)

def escape (text : List Char) : List Char := text.flatMap escapeChar

def shortValue? : Char → Option Char
  | '"' => some '"'
  | '\\' => some '\\'
  | '/' => some '/'
  | 'n' => some '\n'
  | 'r' => some '\r'
  | 't' => some '\t'
  | 'b' => some '\x08'
  | 'f' => some '\x0c'
  | _ => none

/-- Reads up to the closing quotation mark and returns what follows it. `high` is a first surrogate
that still lacks its second; surrogates count only in pairs. -/
def unescape (high : Option Nat) : List Char → Option (List Char × List Char)
  | '"' :: rest => if high.isSome then none else some ([], rest)
  | '\\' :: 'u' :: a :: b :: c :: d :: rest => do
    let unit ← unitValue? a b c d
    match high with
    | some first =>
      if 0xdc00 ≤ unit ∧ unit < 0xe000 then
        let (text, rest) ← unescape none rest
        return (Char.ofNat (0x10000 + (first - 0xd800) * 0x400 + (unit - 0xdc00)) :: text, rest)
      else none
    | none =>
      if 0xd800 ≤ unit ∧ unit < 0xdc00 then unescape (some unit) rest
      else if 0xdc00 ≤ unit ∧ unit < 0xe000 then none
      else
        let (text, rest) ← unescape none rest
        return (Char.ofNat unit :: text, rest)
  | '\\' :: letter :: rest => do
    if high.isSome then none
    let c ← shortValue? letter
    let (text, rest) ← unescape none rest
    return (c :: text, rest)
  | c :: rest => do
    if high.isSome ∨ c.toNat < 0x20 then none
    let (text, rest) ← unescape none rest
    return (c :: text, rest)
  | [] => none

end SchemaCatalog.Json
