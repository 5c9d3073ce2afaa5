/-! Finite binary floating-point numbers of 64 bits, kept as exact integers.
A number is a sign and a count of units of 2^-1074, the count written as a significand times a power
of two. Decimals are read by rounding to the nearest number, a tie going to the even significand;
`ofDecimal?` refuses only what lies past the largest finite number.
-/
namespace SchemaCatalog

/-- Powers with natural exponents mean the same wherever they are written, whatever other instances
are in scope there. -/
@[default_instance 10001]
scoped instance (priority := high) wholePower {α : Type} [NatPow α] : Pow α Nat := instPowNat

/-- A signed decimal: `digits * 10 ^ exponent`. The sign is kept for zero as well. -/
structure Decimal where
  negative : Bool
  digits : Nat
  exponent : Int
deriving DecidableEq, Repr

namespace Binary64

/-- The one spelling of a magnitude: full significands, except at the smallest scale. -/
def Canonical (significand scale : Nat) : Prop :=
  significand < 2 ^ 53 ∧ scale ≤ 2045 ∧ (2 ^ 52 ≤ significand ∨ scale = 0)

instance (significand scale : Nat) : Decidable (Canonical significand scale) :=
  inferInstanceAs (Decidable (_ ∧ _ ∧ (_ ∨ _)))

end Binary64

/-- The number `± significand * 2 ^ scale` in units of 2^-1074. -/
structure Binary64 where
  negative : Bool
  significand : Nat
  scale : Nat
  canonical : Binary64.Canonical significand scale
deriving DecidableEq, Repr

namespace Binary64

def units (x : Binary64) : Nat := x.significand * 2 ^ x.scale

def zero (negative : Bool) : Binary64 := ⟨negative, 0, 0, by decide⟩

instance : Inhabited Binary64 := ⟨zero false⟩

def isZero (x : Binary64) : Bool := x.significand == 0

/-- The integer that a number is, if it has no fraction. -/
def toInt? (x : Binary64) : Option Int :=
  if x.units % 2 ^ 1074 = 0 then
    let magnitude : Int := x.units / 2 ^ 1074
    some (if x.negative then -magnitude else magnitude)
  else none

/-- Zero of either sign counts as nonnegative. -/
def isNonnegative (x : Binary64) : Bool := !x.negative || x.isZero

/-- The quotient rounded to the nearest integer, a half going to the even one. -/
def nearest (numerator denominator : Nat) : Nat :=
  let low := numerator / denominator
  let rest := 2 * (numerator % denominator)
  if denominator < rest ∨ (rest = denominator ∧ low % 2 = 1) then low + 1 else low

/-- The scale at which a magnitude of this many whole units has at most 53 significant bits. -/
def scaleOf (units : Nat) : Nat := Nat.log2 units - 52

/-- The number nearest to `numerator / denominator` units; `none` past the largest. -/
def ofUnits? (negative : Bool) (numerator denominator : Nat) : Option Binary64 :=
  let scale := scaleOf (numerator / denominator)
  let significand := nearest numerator (denominator * 2 ^ scale)
  if fits : Canonical significand scale then some ⟨negative, significand, scale, fits⟩
  else if carried : Canonical (significand / 2) (scale + 1) then
    some ⟨negative, significand / 2, scale + 1, carried⟩
  else none

/-- The number nearest to a decimal. Exponents far outside the range are decided by the position of
the leading digit, so that no power of ten larger than the input is ever formed for them. -/
def ofDecimal? (decimal : Decimal) : Option Binary64 :=
  let lead := decimal.exponent + (Nat.toDigits 10 decimal.digits).length
  if decimal.digits = 0 ∨ lead < -330 then some (zero decimal.negative)
  else if 310 < lead then none
  else
    ofUnits? decimal.negative
      (decimal.digits * 2 ^ 1074 * 10 ^ decimal.exponent.toNat) (10 ^ (-decimal.exponent).toNat)

end Binary64

end SchemaCatalog
