import SchemaCatalog.Json.Basic
import SchemaCatalog.Json.Escape

/-! Reading JSON text. A number without point and exponent is whole, any other is rounded to 64 bits.
A step opens a value or goes on to a next item or member, and each of these has a character of its
own, a bracket, a comma or the first of a scalar, so a budget of one step per character suffices.
-/
namespace SchemaCatalog.Json

def isJsonBlank (c : Char) : Bool := c == ' ' || c == '\n' || c == '\r' || c == '\t'

def skipBlank (text : List Char) : List Char := text.dropWhile isJsonBlank

def splitDigits (text : List Char) : List Char × List Char :=
  (text.takeWhile Char.isDigit, text.dropWhile Char.isDigit)

/-- An optional fraction: a point and at least one digit. -/
def readFraction : List Char → Option (List Char × List Char)
  | '.' :: rest =>
    match splitDigits rest with
    | ([], _) => none
    | (digits, rest) => some (digits, rest)
  | rest => some ([], rest)

def readExponentDigits (negative : Bool) (text : List Char) : Option (Option Int × List Char) :=
  match splitDigits text with
  | ([], _) => none
  | (digits, rest) =>
    let size : Int := Nat.ofDigitChars 10 digits 0
    some (some (if negative then -size else size), rest)

def readExponent : List Char → Option (Option Int × List Char)
  | c :: rest =>
    if c = 'e' ∨ c = 'E' then
      match rest with
      | '-' :: rest => readExponentDigits true rest
      | '+' :: rest => readExponentDigits false rest
      | rest => readExponentDigits false rest
    else some (none, c :: rest)
  | [] => some (none, [])

/-- A number, its sign already read. A whole part of several digits does not begin with zero. -/
def readUnsigned (negative : Bool) (text : List Char) : Option (Json × List Char) := do
  let (whole, rest) := splitDigits text
  if whole.isEmpty ∨ (whole.head? = some '0' ∧ 1 < whole.length) then none
  let (fraction, rest) ← readFraction rest
  let (exponent, rest) ← readExponent rest
  if fraction.isEmpty ∧ exponent.isNone then
    let size : Int := Nat.ofDigitChars 10 whole 0
    return (int (if negative then -size else size), rest)
  else
    let value ← Binary64.ofDecimal?
      ⟨negative, Nat.ofDigitChars 10 (whole ++ fraction) 0, exponent.getD 0 - fraction.length⟩
    return (float value, rest)

def readNumber : List Char → Option (Json × List Char)
  | '-' :: rest => readUnsigned true rest
  | rest => readUnsigned false rest

/-- Values that are one token: texts, constants and numbers. -/
def readScalar : List Char → Option (Json × List Char)
  | '"' :: rest => (unescape none rest).map fun (text, rest) => (str (String.ofList text), rest)
  | 'n' :: 'u' :: 'l' :: 'l' :: rest => some (null, rest)
  | 't' :: 'r' :: 'u' :: 'e' :: rest => some (bool true, rest)
  | 'f' :: 'a' :: 'l' :: 's' :: 'e' :: rest => some (bool false, rest)
  | rest => readNumber rest

mutual
/-- A value after optional blanks, and what follows it. -/
def readValue : Nat → List Char → Option (Json × List Char)
  | 0, _ => none
  | budget + 1, text =>
    match skipBlank text with
    | '[' :: rest =>
      match skipBlank rest with
      | ']' :: rest => some (arr [], rest)
      | _ => (readItems budget rest).map fun (items, rest) => (arr items, rest)
    | '\x7b' :: rest =>
      match skipBlank rest with
      | '\x7d' :: rest => some (obj [], rest)
      | _ => (readMembers budget rest).map fun (members, rest) => (ofMembers members, rest)
    | rest => readScalar rest
/-- At least one item, through the closing bracket. -/
def readItems : Nat → List Char → Option (List Json × List Char)
  | 0, _ => none
  | budget + 1, text =>
    match readValue budget text with
    | none => none
    | some (item, rest) =>
      match skipBlank rest with
      | ']' :: rest => some ([item], rest)
      | ',' :: rest => (readItems budget rest).map fun (items, rest) => (item :: items, rest)
      | _ => none
/-- At least one member, through the closing brace. -/
def readMembers : Nat → List Char → Option (List (String × Json) × List Char)
  | 0, _ => none
  | budget + 1, text =>
    match skipBlank text with
    | '"' :: rest =>
      match unescape none rest with
      | none => none
      | some (name, rest) =>
        match skipBlank rest with
        | ':' :: rest =>
          match readValue budget rest with
          | none => none
          | some (value, rest) =>
            match skipBlank rest with
            | '\x7d' :: rest => some ([(String.ofList name, value)], rest)
            | ',' :: rest =>
              (readMembers budget rest).map fun (members, rest) =>
                ((String.ofList name, value) :: members, rest)
            | _ => none
        | _ => none
    | _ => none
end

def parse? (text : String) : Option Json :=
  match readValue (text.length + 1) text.toList with
  | some (value, rest) => if (skipBlank rest).isEmpty then some value else none
  | none => none

end SchemaCatalog.Json
