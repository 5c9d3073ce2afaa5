import SchemaCatalog.Text.Pieces
import SchemaCatalog.Unicode.Blank
import SchemaCatalog.Yaml.Cursor

/-! Whole and real numbers as YAML spells them. Underscores between digits mean nothing. Whole numbers are
binary after `0b`, hexadecimal after `0x`, octal after another zero, else decimal; places of base sixty
stand between colons. What a text is tagged as may differ from what it looks like, so every text can be
read as a number, and may be refused.
-/
namespace SchemaCatalog.Yaml

/-- No misuse, if a number is spelled as one. -/
def misspelled? (spelled : Bool) : Option Misuse := if spelled then none else some .outOfRange

def isSign (c : Char) : Bool := c == '+' || c == '-'

def dropSign : List Char → List Char
  | c :: rest => if isSign c then rest else c :: rest
  | [] => []

def trimmed (text : List Char) : List Char :=
  ((text.dropWhile Unicode.isBlank).reverse.dropWhile Unicode.isBlank).reverse

def dropUnderscores (text : List Char) : List Char := text.filter (· != '_')

namespace Whole

def isDigitOf (base : Nat) (c : Char) : Bool := isHexDigit c && hexValue c < base

/-- A letter that may follow a zero before the digits of a base. -/
def baseLetter? : Nat → Option Char
  | 2 => some 'b'
  | 8 => some 'o'
  | 16 => some 'x'
  | _ => none

def dropBase (base : Nat) : List Char → List Char
  | '0' :: letter :: digits =>
    if baseLetter? base = some letter.toLower then digits else '0' :: letter :: digits
  | digits => digits

/-- A sign and digits with blanks around them; no more than 4300 digits where they are decimal. -/
def isSpelled (base : Nat) (text : List Char) : Bool :=
  let digits := dropBase base (dropSign (trimmed text))
  !digits.isEmpty && digits.all (isDigitOf base) && (base != 10 || digits.length ≤ 4300)

/-- What is wrong with a text as a whole number, if anything. -/
def misuse? (text : List Char) : Option Misuse :=
  match dropSign (dropUnderscores text) with
  | [] => some .digitless
  | '0' :: 'b' :: digits => misspelled? (isSpelled 2 digits)
  | '0' :: 'x' :: digits => misspelled? (isSpelled 16 digits)
  | '0' :: digits => misspelled? (isSpelled 8 ('0' :: digits))
  | places => misspelled? ((Text.pieces ':' places).all (isSpelled 10))

def isOneOf (digits : String) (c : Char) : Bool := digits.toList.contains c

/-- A digit, then digits that underscores may keep apart. -/
def isDigits : List Char → Bool
  | c :: rest => c.isDigit && rest.all fun c => c.isDigit || c == '_'
  | [] => false

/-- A place of a number to base sixty. -/
def isSixtieth : List Char → Bool
  | [c] => c.isDigit
  | [tens, c] => '0' ≤ tens && tens ≤ '5' && c.isDigit
  | _ => false

/-- Whether an unquoted text looks like a whole number. -/
def looksLike (text : List Char) : Bool :=
  match dropSign text with
  | '0' :: 'b' :: rest => !rest.isEmpty && rest.all (isOneOf "01_")
  | '0' :: 'x' :: rest => !rest.isEmpty && rest.all fun c => isHexDigit c || c == '_'
  | '0' :: rest => rest.all (isOneOf "01234567_")
  | places =>
    match Text.pieces ':' places with
    | first :: sixtieths => isDigits first && sixtieths.all isSixtieth
    | [] => false

end Whole

namespace Real

/-- Digits after a letter, with a sign or without. -/
def isExponent : List Char → Bool
  | 'e' :: digits =>
    let digits := dropSign digits
    !digits.isEmpty && digits.all Char.isDigit
  | rest => rest.isEmpty

/-- A decimal with blanks around it, or a word for infinity or for no number; letters are small. -/
def isSpelled (text : List Char) : Bool :=
  let unsigned := dropSign (trimmed text)
  let rest := unsigned.dropWhile Char.isDigit
  let tail := match rest with
    | '.' :: fraction => fraction.dropWhile Char.isDigit
    | rest => rest
  let digits := (unsigned.take (unsigned.length - tail.length)).filter Char.isDigit
  ["inf", "infinity", "nan"].contains (String.ofList unsigned) ||
    (!digits.isEmpty && isExponent tail)

/-- What is wrong with a text as a real number, if anything. A place of base sixty beyond the 174th has a
weight larger than every number. -/
def misuse? (text : List Char) : Option Misuse :=
  let value := (dropUnderscores text).map Char.toLower
  let unsigned := dropSign value
  if value.isEmpty then some .digitless
  else if unsigned = ".inf".toList ∨ unsigned = ".nan".toList then none
  else
    let places := Text.pieces ':' unsigned
    if places.all isSpelled && 174 < places.length then some .tooLarge
    else misspelled? (places.all isSpelled)

/-- What may follow the point of a number that looks like one. -/
def isFraction (text : List Char) : Bool :=
  match text.dropWhile fun c => c.isDigit || c == '_' with
  | [] => true
  | e :: sign :: digits =>
    (e == 'e' || e == 'E') && isSign sign && !digits.isEmpty && digits.all Char.isDigit
  | _ => false

/-- Whether an unquoted text looks like a real number: it has a point. -/
def looksLike (text : List Char) : Bool :=
  let unsigned := dropSign text
  let whole := unsigned.takeWhile (· != '.')
  match unsigned.dropWhile (· != '.') with
  | [] => false
  | _ :: fraction =>
    if whole.isEmpty then
      ["inf", "Inf", "INF"].contains (String.ofList fraction) ||
        (text == unsigned && (["nan", "NaN", "NAN"].contains (String.ofList fraction) ||
          (fraction.head?.any Char.isDigit && isFraction fraction)))
    else
      match Text.pieces ':' whole with
      | [digits] => Whole.isDigits digits && isFraction fraction
      | digits :: sixtieths =>
        Whole.isDigits digits && sixtieths.all Whole.isSixtieth &&
          fraction.all fun c => c.isDigit || c == '_'
      | [] => false

end Real

end SchemaCatalog.Yaml
