/-! Bytes written in letters, six bits each. Characters of no weight are passed over. The text ends at the
sign that completes a group of four; otherwise its last group has to be whole.
-/
namespace SchemaCatalog.Yaml.Base64

def weight? (c : Char) : Option Nat :=
  if 'A' ≤ c ∧ c ≤ 'Z' then some (c.toNat - 'A'.toNat)
  else if 'a' ≤ c ∧ c ≤ 'z' then some (c.toNat - 'a'.toNat + 26)
  else if c.isDigit then some (c.toNat - '0'.toNat + 52)
  else if c = '+' then some 62
  else if c = '/' then some 63
  else none

/-- The bytes of a text, given how many letters of a group came before, the bits that are left of them, and
how many signs of completion. -/
def decodeFrom : Nat → Nat → Nat → List Char → Option (List UInt8)
  | position, _, _, [] => if position = 0 then some [] else none
  | position, bits, signs, c :: rest =>
    if c = '=' then
      if position < 2 then decodeFrom position bits signs rest
      else if position + signs + 1 < 4 then decodeFrom position bits (signs + 1) rest
      else some []
    else
      match weight? c with
      | none => decodeFrom position bits signs rest
      | some weight =>
        let bits := 64 * bits + weight
        match position with
        | 0 => decodeFrom 1 bits 0 rest
        | 1 => (decodeFrom 2 (bits % 16) 0 rest).map ((bits / 16).toUInt8 :: ·)
        | 2 => (decodeFrom 3 (bits % 4) 0 rest).map ((bits / 4).toUInt8 :: ·)
        | _ => (decodeFrom 0 0 0 rest).map (bits.toUInt8 :: ·)

def decode? (text : List Char) : Option (List UInt8) := decodeFrom 0 0 0 text

end SchemaCatalog.Yaml.Base64
