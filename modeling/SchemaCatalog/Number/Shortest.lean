import SchemaCatalog.Number.Binary64

/-! The shortest decimal that reads back as a given number, and how a decimal is laid out as text.
Of the decimals with the fewest digits the nearest to the number is taken, a tie going to the even
digit. A candidate is taken only if it reads back, and the exact decimal stands behind them all, so
the text of a number determines the number.
-/
namespace SchemaCatalog.Binary64

/-- The position of the leading decimal digit: `10 ^ magnitude ≤ |x| < 10 ^ (magnitude + 1)`.
The smallest number exceeds 10^-324, so 350 further places leave a positive integer. -/
def magnitude (x : Binary64) : Int :=
  (Nat.toDigits 10 (x.units * 10 ^ 350 / 2 ^ 1074)).length - 351

/-- The decimal `digits * 10 ^ exponent`, with a carried power of ten `10 ^ count` kept as one digit. -/
def gridPoint (x : Binary64) (count digits : Nat) (exponent : Int) : Decimal :=
  if digits = 10 ^ count then ⟨x.negative, 1, exponent + count⟩
  else ⟨x.negative, digits, exponent⟩

/-- The nearer of the two neighbours on the grid of `count` digits that reads back. -/
def onGrid? (x : Binary64) (count : Nat) : Option Decimal :=
  let exponent := x.magnitude + 1 - count
  let numerator := x.units * 10 ^ (-exponent).toNat
  let denominator := 2 ^ 1074 * 10 ^ exponent.toNat
  let low := numerator / denominator
  let near := nearest numerator denominator
  let far := if near = low then low + 1 else low
  [near, far].findSome? fun digits =>
    let point := gridPoint x count digits exponent
    if ofDecimal? point = some x then some point else none

/-- Every number is a whole count of units, hence an exact decimal with 1074 places. -/
def exact (x : Binary64) : Decimal := ⟨x.negative, x.units * 5 ^ 1074, -1074⟩

def shortest (x : Binary64) : Decimal :=
  if x.isZero then ⟨x.negative, 0, 0⟩
  else ((List.range 17).findSome? fun i => onGrid? x (i + 1)).getD (exact x)

end SchemaCatalog.Binary64

namespace SchemaCatalog.Decimal

/-- An exponent has a sign and at least two digits. -/
def exponentText (exponent : Int) : List Char :=
  let digits := Nat.toDigits 10 exponent.natAbs
  'e' :: (if exponent < 0 then '-' else '+') ::
    (if digits.length < 2 then '0' :: digits else digits)

/-- Digits with the point after the first `whole` of them, one digit kept on either side. -/
def positional (digits : List Char) (whole : Int) : List Char :=
  if whole ≤ 0 then '0' :: '.' :: List.replicate (-whole).toNat '0' ++ digits
  else if whole < digits.length then
    digits.take whole.toNat ++ '.' :: digits.drop whole.toNat
  else digits ++ List.replicate (whole.toNat - digits.length) '0' ++ ['.', '0']

/-- One digit, a point if more follow, and an exponent. -/
def scientific (digits : List Char) (exponent : Int) : List Char :=
  match digits with
  | [] => []
  | [digit] => digit :: exponentText exponent
  | digit :: rest => digit :: '.' :: rest ++ exponentText exponent

/-- Positional from 10^-4 up to, not including, 10^16; with an exponent outside that. -/
def chars (decimal : Decimal) : List Char :=
  let digits := Nat.toDigits 10 decimal.digits
  let whole := decimal.exponent + digits.length
  let unsigned :=
    if -4 ≤ whole - 1 ∧ whole - 1 < 16 then positional digits whole
    else scientific digits (whole - 1)
  if decimal.negative then '-' :: unsigned else unsigned

end SchemaCatalog.Decimal

namespace SchemaCatalog.Binary64

/-- The text of a number: its shortest decimal, always with a point or an exponent. -/
def text (x : Binary64) : String := String.ofList x.shortest.chars

end SchemaCatalog.Binary64
