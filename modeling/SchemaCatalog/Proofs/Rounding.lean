import SchemaCatalog.Number.Shortest

/-! Rounding of decimals. The number nearest to a quotient depends on the quotient alone, so digits of a
decimal may be moved into its exponent. Main statement: the decimal that a number is written as is
rounded to that number again.
-/
namespace SchemaCatalog.Binary64

theorem nearest_mul (numerator denominator : Nat) {factor : Nat} (positive : 0 < factor) :
    nearest (numerator * factor) (denominator * factor) = nearest numerator denominator := by
  have quotient := Nat.mul_div_mul_right numerator denominator positive
  have rest : 2 * (numerator * factor % (denominator * factor)) =
      2 * (numerator % denominator) * factor := by
    rw [Nat.mul_mod_mul_right, Nat.mul_assoc]
  have above : denominator * factor < 2 * (numerator % denominator) * factor ↔
      denominator < 2 * (numerator % denominator) := Nat.mul_lt_mul_right positive
  have half : 2 * (numerator % denominator) * factor = denominator * factor ↔
      2 * (numerator % denominator) = denominator := Nat.mul_left_inj (Nat.ne_of_gt positive)
  simp only [nearest, quotient, rest, above, half]

theorem ofUnits?_mul (negative : Bool) (numerator denominator : Nat) {factor : Nat}
    (positive : 0 < factor) :
    ofUnits? negative (numerator * factor) (denominator * factor) =
      ofUnits? negative numerator denominator := by
  have moved (scale : Nat) : denominator * factor * 2 ^ scale = denominator * 2 ^ scale * factor :=
    Nat.mul_right_comm _ _ _
  simp only [ofUnits?, Nat.mul_div_mul_right _ _ positive, moved, nearest_mul _ _ positive]

theorem ofUnits?_congr (negative : Bool) {numerator denominator numerator' denominator' : Nat}
    (positive : 0 < denominator) (positive' : 0 < denominator')
    (same : numerator * denominator' = numerator' * denominator) :
    ofUnits? negative numerator denominator = ofUnits? negative numerator' denominator' :=
  calc ofUnits? negative numerator denominator
    _ = ofUnits? negative (numerator * denominator') (denominator * denominator') :=
      (ofUnits?_mul negative _ _ positive').symm
    _ = ofUnits? negative (numerator' * denominator) (denominator' * denominator) := by
      rw [same, Nat.mul_comm denominator]
    _ = ofUnits? negative numerator' denominator' := ofUnits?_mul negative _ _ positive

theorem length_toDigits_mul_pow {digits : Nat} (positive : 0 < digits) (count : Nat) :
    (Nat.toDigits 10 (digits * 10 ^ count)).length = (Nat.toDigits 10 digits).length + count := by
  induction count with
  | zero => simp
  | succ count ih =>
    have power : 0 < 10 ^ count := Nat.pow_pos (by decide)
    have large : 10 ≤ digits * 10 ^ (count + 1) := by
      rw [Nat.pow_succ, ← Nat.mul_assoc]
      exact Nat.le_mul_of_pos_left 10 (Nat.mul_pos positive power)
    have quotient : digits * 10 ^ (count + 1) / 10 = digits * 10 ^ count := by
      rw [Nat.pow_succ, ← Nat.mul_assoc]
      exact Nat.mul_div_cancel _ (by decide)
    rw [Nat.toDigits_of_base_le (by decide) large, quotient, List.length_append, ih]
    rfl

/-- Zeros at the end of a decimal's digits are as good as a greater exponent. -/
theorem ofDecimal?_shift (negative : Bool) (digits count : Nat) (exponent : Int) :
    ofDecimal? ⟨negative, digits * 10 ^ count, exponent⟩ =
      ofDecimal? ⟨negative, digits, exponent + count⟩ := by
  by_cases none : digits = 0
  · simp [ofDecimal?, none]
  have positive : 0 < digits := Nat.pos_of_ne_zero none
  have power : 0 < 10 ^ count := Nat.pow_pos (by decide)
  have some : digits * 10 ^ count ≠ 0 := Nat.ne_of_gt (Nat.mul_pos positive power)
  have lead : exponent + ((Nat.toDigits 10 digits).length + count : Nat) =
      exponent + count + (Nat.toDigits 10 digits).length := by omega
  have powers : 10 ^ count * 10 ^ exponent.toNat * 10 ^ (-(exponent + count)).toNat =
      10 ^ (exponent + count).toNat * 10 ^ (-exponent).toNat := by
    rw [← Nat.pow_add, ← Nat.pow_add, ← Nat.pow_add]
    congr 1
    omega
  have rounded (unit : Nat) : ofUnits? negative (digits * 10 ^ count * unit * 10 ^ exponent.toNat)
        (10 ^ (-exponent).toNat) =
      ofUnits? negative (digits * unit * 10 ^ (exponent + count).toNat)
        (10 ^ (-(exponent + count)).toNat) := by
    apply ofUnits?_congr negative (Nat.pow_pos (by decide)) (Nat.pow_pos (by decide))
    calc digits * 10 ^ count * unit * 10 ^ exponent.toNat * 10 ^ (-(exponent + count)).toNat
      _ = digits * unit *
          (10 ^ count * 10 ^ exponent.toNat * 10 ^ (-(exponent + count)).toNat) := by ac_rfl
      _ = digits * unit * 10 ^ (exponent + count).toNat * 10 ^ (-exponent).toNat := by
        rw [powers, Nat.mul_assoc (digits * unit)]
  unfold ofDecimal?
  dsimp only
  rw [length_toDigits_mul_pow positive, lead, rounded]
  simp only [none, some]

/-- A whole count of units that is a number is rounded to it. -/
theorem ofUnits?_units (x : Binary64) : ofUnits? x.negative x.units 1 = some x := by
  obtain ⟨small, low, full⟩ := x.canonical
  have scale : scaleOf x.units = x.scale := by
    rw [scaleOf]
    rcases full with full | least
    · have positive : x.units ≠ 0 := by
        rw [units]
        exact Nat.ne_of_gt (Nat.mul_pos (by omega) (Nat.two_pow_pos _))
      have lead : Nat.log2 x.units = 52 + x.scale := by
        rw [Nat.log2_eq_iff positive, units, Nat.pow_add, Nat.add_right_comm, Nat.pow_add]
        exact ⟨Nat.mul_le_mul_right _ full, Nat.mul_lt_mul_of_pos_right small (Nat.two_pow_pos _)⟩
      omega
    · by_cases nothing : x.units = 0
      · rw [nothing, least]
        rfl
      · have bound : x.units < 2 ^ 53 := by
          rw [units, least]
          omega
        have lead := (Nat.log2_lt nothing).mpr bound
        omega
  have significand : nearest x.units (1 * 2 ^ x.scale) = x.significand := by
    have power : 0 < 2 ^ x.scale := Nat.two_pow_pos _
    rw [units, nearest_mul _ _ power]
    simp [nearest, Nat.mod_one]
  simp only [ofUnits?, Nat.div_one, scale, significand]
  rw [dif_pos x.canonical]

theorem isZero_iff (x : Binary64) : x.isZero = true ↔ x = zero x.negative := by
  rcases x with ⟨negative, significand, scale, small, low, full⟩
  constructor
  · intro none
    cases beq_iff_eq.mp none
    cases full.resolve_left (by decide)
    rfl
  · intro equal
    rw [equal]
    rfl

theorem units_eq_zero (x : Binary64) : x.units = 0 ↔ x.isZero = true := by
  have power : 2 ^ x.scale ≠ 0 := Nat.ne_of_gt (Nat.two_pow_pos _)
  rw [isZero, beq_iff_eq, units, Nat.mul_eq_zero]
  exact or_iff_left power

theorem ofDecimal?_exact {x : Binary64} (nonzero : ¬ x.isZero = true) :
    ofDecimal? x.exact = some x := by
  have nothing : x.units ≠ 0 := fun none => nonzero (x.units_eq_zero.mp none)
  have fives : 5 ^ 1074 ≠ 0 := by decide +kernel
  have some : x.units * 5 ^ 1074 ≠ 0 := Nat.mul_ne_zero nothing fives
  have least : 743 < (Nat.toDigits 10 (x.units * 5 ^ 1074)).length := by
    apply Nat.lt_of_not_le
    intro short
    rw [Nat.length_toDigits_le_iff (by decide) (by decide)] at short
    have bound : 10 ^ 743 ≤ 5 ^ 1074 := by decide +kernel
    have grown := Nat.le_mul_of_pos_left (5 ^ 1074) (Nat.pos_of_ne_zero nothing)
    omega
  have greatest : (Nat.toDigits 10 (x.units * 5 ^ 1074)).length ≤ 1384 := by
    rw [Nat.length_toDigits_le_iff (by decide) (by decide)]
    obtain ⟨small, low, -⟩ := x.canonical
    have power : 2 ^ x.scale ≤ 2 ^ 2045 := Nat.pow_le_pow_right (by decide) low
    have scaled : x.units ≤ 2 ^ 53 * 2 ^ 2045 := Nat.mul_le_mul (Nat.le_of_lt small) power
    have bound : 2 ^ 53 * 2 ^ 2045 * 5 ^ 1074 < 10 ^ 1384 := by decide +kernel
    exact Nat.lt_of_le_of_lt (Nat.mul_le_mul_right _ scaled) bound
  have whole : ofUnits? x.negative (x.units * 5 ^ 1074 * 2 ^ 1074 * 10 ^ (-1074 : Int).toNat)
      (10 ^ (- -1074 : Int).toNat) = Option.some x := by
    refine (ofUnits?_congr x.negative (Nat.pow_pos (by decide)) (by decide) ?_).trans
      (ofUnits?_units x)
    have ten : 10 ^ 1074 = 5 ^ 1074 * 2 ^ 1074 := by rw [← Nat.mul_pow]
    have raised : (- -1074 : Int).toNat = 1074 := rfl
    have lowered : (-1074 : Int).toNat = 0 := rfl
    rw [raised, lowered, ten, Nat.mul_assoc x.units, Nat.pow_zero, Nat.mul_one, Nat.mul_one]
  rw [exact, ofDecimal?]
  dsimp only
  rw [if_neg (by omega), if_neg (by omega)]
  exact whole

theorem ofDecimal?_shortest (x : Binary64) : ofDecimal? x.shortest = some x := by
  unfold shortest
  split
  next none => exact congrArg some ((isZero_iff x).mp none).symm
  next nonzero =>
    cases tried : (List.range 17).findSome? fun index => onGrid? x (index + 1) with
    | none => exact ofDecimal?_exact nonzero
    | some decimal =>
      obtain ⟨index, -, found⟩ := List.exists_of_findSome?_eq_some tried
      obtain ⟨digits, -, kept⟩ := List.exists_of_findSome?_eq_some found
      dsimp only at kept
      split at kept
      next reads =>
        cases kept
        exact reads
      next => cases kept

end SchemaCatalog.Binary64
