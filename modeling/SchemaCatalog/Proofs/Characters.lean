import SchemaCatalog.Json.Escape

/-! Texts survive being written between quotation marks. Every character is read back from its own
spelling, whatever follows it. Main statement: reading up to the closing quotation mark gives the
text that was written and leaves what stands behind it.
-/
namespace SchemaCatalog.Json

theorem hexValue_hexDigit : ∀ digit < 16, hexValue? (hexDigit digit) = some digit := by decide

theorem unitValue_hexDigits {unit : Nat} (small : unit < 0x10000) :
    unitValue? (hexDigit (unit / 4096 % 16)) (hexDigit (unit / 256 % 16)) (hexDigit (unit / 16 % 16))
      (hexDigit (unit % 16)) = some unit := by
  have digit (part : Nat) : hexValue? (hexDigit (part % 16)) = some (part % 16) :=
    hexValue_hexDigit _ (Nat.mod_lt _ (by decide))
  simp only [unitValue?, digit, Option.bind_eq_bind, Option.bind_some, Option.pure_def]
  congr 1
  omega

def withFirst (c : Char) : Option (List Char × List Char) → Option (List Char × List Char) :=
  Option.map fun (text, rest) => (c :: text, rest)

theorem bind_withFirst (c : Char) (later : Option (List Char × List Char)) :
    (do let (text, rest) ← later; pure (c :: text, rest)) = withFirst c later := by
  cases later <;> rfl

theorem unescape_unit {unit : Nat} (small : unit < 0x10000) (plain : unit < 0xd800 ∨ 0xe000 ≤ unit)
    (rest : List Char) :
    unescape none (unitEscape unit ++ rest) = withFirst (Char.ofNat unit) (unescape none rest) := by
  simp only [unitEscape, List.cons_append, List.nil_append, unescape, unitValue_hexDigits small,
    Option.bind_eq_bind, Option.bind_some]
  rw [if_neg (by omega), if_neg (by omega)]
  exact bind_withFirst _ _

theorem unescape_pair {high low : Nat} (first : high < 0x400) (second : low < 0x400)
    (rest : List Char) :
    unescape none (unitEscape (0xd800 + high) ++ unitEscape (0xdc00 + low) ++ rest) =
      withFirst (Char.ofNat (0x10000 + high * 0x400 + low)) (unescape none rest) := by
  have before : 0xd800 + high < 0x10000 := by omega
  have after : 0xdc00 + low < 0x10000 := by omega
  simp only [unitEscape, List.cons_append, List.nil_append, unescape, unitValue_hexDigits before,
    unitValue_hexDigits after, Option.bind_eq_bind, Option.bind_some]
  rw [if_pos (by omega), if_pos (by omega)]
  have sum : 0x10000 + (0xd800 + high - 0xd800) * 0x400 + (0xdc00 + low - 0xdc00) =
      0x10000 + high * 0x400 + low := by omega
  rw [sum]
  exact bind_withFirst _ _

theorem unescape_short {c letter : Char} (short : shortEscape? c = some letter) (rest : List Char) :
    unescape none ('\\' :: letter :: rest) = withFirst c (unescape none rest) := by
  have spelled : letter ≠ 'u' ∧ shortValue? letter = some c := by
    unfold shortEscape? at short
    split at short <;> cases short <;> decide
  rw [unescape.eq_3 _ _ _ fun _ _ _ _ _ same _ => spelled.1 same]
  simp only [Option.isSome_none, Bool.false_eq_true, if_false, spelled.2, Option.bind_eq_bind,
    Option.bind_some]
  exact bind_withFirst _ _

theorem unescape_plain {c : Char} (unescaped : shortEscape? c = none) (printable : 0x20 ≤ c.toNat)
    (rest : List Char) : unescape none (c :: rest) = withFirst c (unescape none rest) := by
  have quote : c ≠ '"' := by
    rintro rfl
    cases unescaped
  have backslash : c ≠ '\\' := by
    rintro rfl
    cases unescaped
  rw [unescape.eq_4 _ _ _ quote (fun _ _ _ _ _ same _ => backslash same)
    fun _ _ same _ => backslash same]
  rw [if_neg (by simp; omega)]
  exact bind_withFirst _ _

theorem unescape_escapeChar (c : Char) (rest : List Char) :
    unescape none (escapeChar c ++ rest) = withFirst c (unescape none rest) := by
  unfold escapeChar
  split
  next letter short => exact unescape_short short rest
  next unescaped =>
    split
    next printable => exact unescape_plain unescaped printable.1 rest
    next =>
      have valid := c.valid
      have bound : c.toNat < 0xd800 ∨ (0xdfff < c.toNat ∧ c.toNat < 0x110000) := valid
      split
      next small =>
        have read := unescape_unit small (by omega) rest
        rw [Char.ofNat_toNat] at read
        exact read
      next =>
        have high : (c.toNat - 0x10000) / 0x400 < 0x400 := by omega
        have low : (c.toNat - 0x10000) % 0x400 < 0x400 := Nat.mod_lt _ (by decide)
        have read := unescape_pair high low rest
        have sum : 0x10000 + (c.toNat - 0x10000) / 0x400 * 0x400 + (c.toNat - 0x10000) % 0x400 =
            c.toNat := by omega
        rw [sum, Char.ofNat_toNat] at read
        exact read

theorem unescape_escape (text rest : List Char) :
    unescape none (escape text ++ '"' :: rest) = some (text, rest) := by
  induction text with
  | nil => simp [escape, unescape]
  | cons c text ih =>
    have split : escape (c :: text) = escapeChar c ++ escape text := List.flatMap_cons
    rw [split, List.append_assoc, unescape_escapeChar, ih]
    rfl

end SchemaCatalog.Json
