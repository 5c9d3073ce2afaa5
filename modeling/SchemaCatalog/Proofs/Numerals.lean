import SchemaCatalog.Json.Reader
import SchemaCatalog.Proofs.Rounding

/-! Numbers survive being written as text. The reader takes the digits apart as the writer has put them
together; where it comes to another decimal than the one written, the two are rounded alike. Main
statement: a number is read back from its text, whatever follows that does not go on it.
-/
namespace SchemaCatalog

open Binary64 (ofDecimal?)

namespace Json

variable {negative : Bool} {digits whole fraction tail after rest : List Char}

/-- What follows does not go on a row of digits. -/
def Undigited (rest : List Char) : Prop := ∀ c ∈ rest.head?, c.isDigit = false

/-- What follows does not go on a number. -/
def Ends (rest : List Char) : Prop :=
  ∀ c ∈ rest.head?, c.isDigit = false ∧ c ≠ '.' ∧ c ≠ 'e' ∧ c ≠ 'E'

theorem Ends.undigited (ends : Ends rest) : Undigited rest := fun c first => (ends c first).1

theorem splitDigits_append (all : ∀ c ∈ digits, c.isDigit = true) (ends : Undigited rest) :
    splitDigits (digits ++ rest) = (digits, rest) := by
  have stops : rest.takeWhile Char.isDigit = [] ∧ rest.dropWhile Char.isDigit = rest := by
    cases rest with
    | nil => exact ⟨rfl, rfl⟩
    | cons c rest =>
      have other : c.isDigit = false := ends c rfl
      simp [other]
  rw [splitDigits, List.takeWhile_append_of_pos all, List.dropWhile_append_of_pos all, stops.1,
    stops.2, List.append_nil]

theorem isDigit_toDigits (number : Nat) : ∀ c ∈ Nat.toDigits 10 number, c.isDigit = true :=
  fun _ inside => Nat.isDigit_of_mem_toDigits (by decide) (by decide) inside

theorem head_toDigits {number : Nat} (positive : number ≠ 0) :
    (Nat.toDigits 10 number).head? ≠ some '0' := by
  induction number using Nat.strongRecOn with
  | ind number ih =>
    by_cases small : number < 10
    · rw [Nat.toDigits_of_lt_base small]
      have digit : ∀ number < 10, number ≠ 0 → number.digitChar ≠ '0' := by decide
      simpa using digit number small positive
    · have first := ih (number / 10) (by omega) (by omega)
      rw [Nat.toDigits_of_base_le (by decide) (Nat.not_lt.mp small)]
      obtain ⟨c, others, equal⟩ := List.exists_cons_of_ne_nil (Nat.toDigits_ne_nil (n := number / 10) (b := 10))
      rw [equal] at first ⊢
      exact first

/-- A whole part as the reader accepts it: zero, or digits that do not begin with it. -/
def Proper (whole : List Char) : Prop :=
  whole ≠ [] ∧ (whole.head? = some '0' → whole.length ≤ 1)

theorem proper_zero : Proper ['0'] := ⟨by decide, by decide⟩

theorem proper_toDigits (number : Nat) : Proper (Nat.toDigits 10 number) := by
  refine ⟨Nat.toDigits_ne_nil, fun zero => ?_⟩
  by_cases nothing : number = 0
  · subst nothing
    decide
  · exact absurd zero (head_toDigits nothing)

theorem readFraction_digits (some : fraction ≠ []) (all : ∀ c ∈ fraction, c.isDigit = true)
    (ends : Undigited rest) :
    readFraction ('.' :: (fraction ++ rest)) = Option.some (fraction, rest) := by
  rw [readFraction, splitDigits_append all ends]
  cases fraction with
  | nil => exact absurd rfl some
  | cons c fraction => rfl

theorem readFraction_none (ends : ∀ c ∈ rest.head?, c ≠ '.') : readFraction rest = some ([], rest) := by
  unfold readFraction
  split
  next => exact absurd rfl (ends '.' rfl)
  next => rfl

theorem readExponent_none (ends : ∀ c ∈ rest.head?, c ≠ 'e' ∧ c ≠ 'E') :
    readExponent rest = some (none, rest) := by
  cases rest with
  | nil => rfl
  | cons c rest =>
    obtain ⟨small, capital⟩ := ends c rfl
    simp [readExponent, small, capital]

theorem readExponentDigits_append (negative : Bool) (some : digits ≠ []) (all : ∀ c ∈ digits, c.isDigit = true)
    (ends : Undigited rest) {size : Nat} (meaning : Nat.ofDigitChars 10 digits 0 = size) :
    readExponentDigits negative (digits ++ rest) =
      Option.some (Option.some (if negative then -(size : Int) else size), rest) := by
  rw [readExponentDigits, splitDigits_append all ends, ← meaning]
  cases digits with
  | nil => exact absurd rfl some
  | cons c digits => rfl

theorem readExponent_text (exponent : Int) (ends : Undigited rest) :
    readExponent (Decimal.exponentText exponent ++ rest) = some (some exponent, rest) := by
  have padded : ∃ digits, Decimal.exponentText exponent =
      'e' :: (if exponent < 0 then '-' else '+') :: digits ∧ digits ≠ [] ∧
        (∀ c ∈ digits, c.isDigit = true) ∧ Nat.ofDigitChars 10 digits 0 = exponent.natAbs := by
    refine ⟨_, rfl, ?_⟩
    have digits := isDigit_toDigits exponent.natAbs
    split
    next =>
      refine ⟨by simp, ?_, ?_⟩
      · intro c inside
        rcases List.mem_cons.mp inside with rfl | inside
        · rfl
        · exact digits c inside
      · rw [Nat.ofDigitChars_cons]
        exact Nat.ofDigitChars_ten_toDigits
    next => exact ⟨Nat.toDigits_ne_nil, digits, Nat.ofDigitChars_ten_toDigits⟩
  obtain ⟨digits, text, some, all, meaning⟩ := padded
  have negated := readExponentDigits_append true some all ends meaning
  have plain := readExponentDigits_append false some all ends meaning
  rw [text]
  split
  next below =>
    have size : -(exponent.natAbs : Int) = exponent := by omega
    simp only [readExponent, List.cons_append, true_or, if_true, negated, size]
  next above =>
    have size : (exponent.natAbs : Int) = exponent := by omega
    simp only [readExponent, List.cons_append, true_or, if_true, plain, Bool.false_eq_true, if_false,
      size]

theorem readUnsigned_append (proper : Proper whole) (all : ∀ c ∈ whole, c.isDigit = true)
    (ends : Undigited tail) {exponent : Option Int} (middle : readFraction tail = some (fraction, after))
    (last : readExponent after = some (exponent, rest)) :
    readUnsigned negative (whole ++ tail) =
      if fraction.isEmpty ∧ exponent.isNone then
        some (int (if negative then -(Nat.ofDigitChars 10 whole 0 : Int)
          else Nat.ofDigitChars 10 whole 0), rest)
      else (ofDecimal? ⟨negative, Nat.ofDigitChars 10 (whole ++ fraction) 0,
        exponent.getD 0 - fraction.length⟩).map fun value => (float value, rest) := by
  have accepted : ¬ (whole.isEmpty ∨ whole.head? = some '0' ∧ 1 < whole.length) := by
    rintro (empty | ⟨zero, long⟩)
    · exact proper.1 (List.isEmpty_iff.mp empty)
    · exact absurd long (Nat.not_lt.mpr (proper.2 zero))
  rw [readUnsigned, splitDigits_append all ends]
  dsimp only
  rw [if_neg accepted]
  simp only [middle, last, Option.bind_eq_bind, Option.bind_some]
  split
  · rfl
  · cases ofDecimal? ⟨negative, Nat.ofDigitChars 10 (whole ++ fraction) 0,
      exponent.getD 0 - fraction.length⟩ <;> rfl

theorem readUnsigned_toDigits (number : Nat) (ends : Ends rest) :
    readUnsigned negative (Nat.toDigits 10 number ++ rest) =
      some (int (if negative then -(number : Int) else number), rest) := by
  have middle : readFraction rest = some ([], rest) := readFraction_none fun c first => (ends c first).2.1
  have last : readExponent rest = some (none, rest) := readExponent_none fun c first => (ends c first).2.2
  rw [readUnsigned_append (proper_toDigits number) (isDigit_toDigits number) ends.undigited middle last,
    Nat.ofDigitChars_ten_toDigits]
  rfl

/-- A number with a fraction or an exponent is what the decimal is rounded to. -/
theorem readUnsigned_real (proper : Proper whole) (all : ∀ c ∈ whole, c.isDigit = true)
    (ends : Undigited tail) {exponent : Option Int} (middle : readFraction tail = some (fraction, after))
    (last : readExponent after = some (exponent, rest)) (real : fraction ≠ [] ∨ exponent.isSome)
    {value : Binary64} (rounded : ofDecimal? ⟨negative, Nat.ofDigitChars 10 (whole ++ fraction) 0,
      exponent.getD 0 - fraction.length⟩ = some value) :
    readUnsigned negative (whole ++ tail) = some (float value, rest) := by
  rw [readUnsigned_append proper all ends middle last, if_neg, rounded]
  · rfl
  · rintro ⟨empty, missing⟩
    rcases real with real | real
    · exact real (List.isEmpty_iff.mp empty)
    · rw [Option.isNone_iff_eq_none.mp missing] at real
      cases real

section Decimals

variable {number : Nat} {exponent : Int} {value : Binary64}

theorem undigited_point : Undigited ('.' :: rest) := by
  rintro c ⟨⟩
  rfl

theorem undigited_exponent (exponent : Int) (rest : List Char) :
    Undigited (Decimal.exponentText exponent ++ rest) := by
  rintro c ⟨⟩
  rfl

/-- Digits around a point are one number, as many places down as stand behind the point. -/
theorem readUnsigned_point (proper : Proper whole) (all : ∀ c ∈ whole ++ fraction, c.isDigit = true)
    (some : fraction ≠ []) (ends : Ends rest)
    (rounded : ofDecimal? ⟨negative, Nat.ofDigitChars 10 (whole ++ fraction) 0, -fraction.length⟩ =
      Option.some value) :
    readUnsigned negative (whole ++ '.' :: fraction ++ rest) = Option.some (float value, rest) := by
  have text : whole ++ '.' :: fraction ++ rest = whole ++ '.' :: (fraction ++ rest) := by simp
  have middle : readFraction ('.' :: (fraction ++ rest)) = Option.some (fraction, rest) :=
    readFraction_digits some (fun c inside => all c (List.mem_append_right _ inside)) ends.undigited
  have last : readExponent rest = Option.some (none, rest) :=
    readExponent_none fun c first => (ends c first).2.2
  have whole := fun c inside => all c (List.mem_append_left _ inside)
  rw [text]
  refine readUnsigned_real proper whole undigited_point middle last (.inl some) ?_
  rw [← rounded, Option.getD_none, Int.zero_sub]

theorem proper_digits (plain : number ≠ 0 ∨ exponent = 0) {zeros : Nat}
    (short : exponent = 0 → zeros = 0) :
    Proper (Nat.toDigits 10 number ++ List.replicate zeros '0') := by
  obtain ⟨some, single⟩ := proper_toDigits number
  refine ⟨List.append_ne_nil_of_left_ne_nil some _, fun zero => ?_⟩
  have first : (Nat.toDigits 10 number).head? = Option.some '0' := by
    obtain ⟨c, others, equal⟩ := List.exists_cons_of_ne_nil some
    rw [equal] at zero ⊢
    exact zero
  rcases plain with positive | none
  · exact absurd first (head_toDigits positive)
  · rw [short none, List.replicate_zero, List.append_nil]
    exact single first

theorem isDigit_zeros (count : Nat) : ∀ c ∈ List.replicate count '0', c.isDigit = true := by
  intro c inside
  rw [List.eq_of_mem_replicate inside]
  rfl

theorem ofDigitChars_zeros (count : Nat) (digits : List Char) :
    Nat.ofDigitChars 10 ('0' :: (List.replicate count '0' ++ digits)) 0 =
      Nat.ofDigitChars 10 digits 0 := by
  rw [Nat.ofDigitChars_cons, Nat.ofDigitChars_append, Nat.ofDigitChars_replicate_zero]
  rfl

/-- The point stands in front of all digits, with zeros in between. -/
theorem readUnsigned_before (rounded : ofDecimal? ⟨negative, number, exponent⟩ = some value)
    (ends : Ends rest) {zeros : Nat}
    (places : -((zeros + (Nat.toDigits 10 number).length : Nat) : Int) = exponent) :
    readUnsigned negative ('0' :: '.' :: List.replicate zeros '0' ++ Nat.toDigits 10 number ++ rest) =
      some (float value, rest) := by
  have digits :
      ∀ c ∈ ['0'] ++ (List.replicate zeros '0' ++ Nat.toDigits 10 number), c.isDigit = true := by
    rw [List.forall_mem_append, List.forall_mem_append]
    exact ⟨isDigit_zeros 1, isDigit_zeros zeros, isDigit_toDigits number⟩
  have fraction : List.replicate zeros '0' ++ Nat.toDigits 10 number ≠ [] :=
    List.append_ne_nil_of_right_ne_nil _ Nat.toDigits_ne_nil
  have text : '0' :: '.' :: List.replicate zeros '0' ++ Nat.toDigits 10 number ++ rest =
      ['0'] ++ '.' :: (List.replicate zeros '0' ++ Nat.toDigits 10 number) ++ rest := rfl
  rw [text]
  refine readUnsigned_point proper_zero digits fraction ends ?_
  rw [List.singleton_append, ofDigitChars_zeros, Nat.ofDigitChars_ten_toDigits, List.length_append,
    List.length_replicate, places]
  exact rounded

/-- The point stands among the digits. -/
theorem readUnsigned_among (rounded : ofDecimal? ⟨negative, number, exponent⟩ = some value)
    (positive : number ≠ 0) (ends : Ends rest) {count : Nat} (some : count ≠ 0)
    (within : count < (Nat.toDigits 10 number).length)
    (places : (count : Int) = exponent + (Nat.toDigits 10 number).length) :
    readUnsigned negative ((Nat.toDigits 10 number).take count ++
      '.' :: (Nat.toDigits 10 number).drop count ++ rest) = Option.some (float value, rest) := by
  have whole := List.take_append_drop count (Nat.toDigits 10 number)
  have proper : Proper ((Nat.toDigits 10 number).take count) := by
    refine ⟨fun empty => ?_, fun zero => ?_⟩
    · rcases List.take_eq_nil_iff.mp empty with none | none
      · exact some none
      · exact Nat.toDigits_ne_nil none
    · rw [List.head?_take, if_neg some] at zero
      exact absurd zero (head_toDigits positive)
  have fraction : (Nat.toDigits 10 number).drop count ≠ [] := by
    intro empty
    exact absurd within (Nat.not_lt.mpr (List.drop_eq_nil_iff.mp empty))
  refine readUnsigned_point proper ?_ fraction ends ?_
  · rw [whole]
    exact isDigit_toDigits number
  · rw [whole, Nat.ofDigitChars_ten_toDigits, List.length_drop, ← rounded]
    congr 2
    omega

/-- Zeros and the point stand behind all digits. -/
theorem readUnsigned_behind (rounded : ofDecimal? ⟨negative, number, exponent⟩ = some value)
    (plain : number ≠ 0 ∨ exponent = 0) (ends : Ends rest) {zeros : Nat}
    (places : (zeros : Int) = exponent) :
    readUnsigned negative (Nat.toDigits 10 number ++ List.replicate zeros '0' ++ ['.', '0'] ++ rest) =
      some (float value, rest) := by
  have digits :
      ∀ c ∈ Nat.toDigits 10 number ++ List.replicate zeros '0' ++ ['0'], c.isDigit = true := by
    rw [List.forall_mem_append, List.forall_mem_append]
    exact ⟨⟨isDigit_toDigits number, isDigit_zeros zeros⟩, isDigit_zeros 1⟩
  have text : Nat.toDigits 10 number ++ List.replicate zeros '0' ++ ['.', '0'] ++ rest =
      Nat.toDigits 10 number ++ List.replicate zeros '0' ++ '.' :: ['0'] ++ rest := rfl
  have last : ['0'] = List.replicate 1 '0' := rfl
  rw [text]
  refine readUnsigned_point (proper_digits plain fun none => by omega) digits (by decide) ends ?_
  -- a zero more behind the digits is a factor of ten, and one place further down
  rw [last, List.append_assoc, List.replicate_append_replicate, Nat.ofDigitChars_append,
    Nat.ofDigitChars_ten_toDigits, Nat.ofDigitChars_replicate_zero, Nat.mul_comm,
    Binary64.ofDecimal?_shift, ← rounded]
  congr 2
  rw [List.length_replicate]
  omega

theorem readUnsigned_positional (rounded : ofDecimal? ⟨negative, number, exponent⟩ = some value)
    (plain : number ≠ 0 ∨ exponent = 0) (ends : Ends rest) :
    readUnsigned negative (Decimal.positional (Nat.toDigits 10 number)
      (exponent + (Nat.toDigits 10 number).length) ++ rest) = some (float value, rest) := by
  unfold Decimal.positional
  split
  next small => exact readUnsigned_before rounded ends (by omega)
  next large =>
    split
    next inside =>
      have positive : number ≠ 0 := by
        rintro rfl
        have none := plain.resolve_left (by simp)
        simp [none] at inside
      exact readUnsigned_among rounded positive ends (by omega) (by omega) (by omega)
    next outside => exact readUnsigned_behind rounded plain ends (by omega)

theorem readUnsigned_scientific (rounded : ofDecimal? ⟨negative, number, exponent⟩ = some value)
    (ends : Ends rest) :
    readUnsigned negative (Decimal.scientific (Nat.toDigits 10 number)
      (exponent + (Nat.toDigits 10 number).length - 1) ++ rest) = some (float value, rest) := by
  have digits := isDigit_toDigits number
  have meaning : Nat.ofDigitChars 10 (Nat.toDigits 10 number) 0 = number :=
    Nat.ofDigitChars_ten_toDigits
  have last (power : Int) : readExponent (Decimal.exponentText power ++ rest) =
      some (some power, rest) := readExponent_text power ends.undigited
  rw [← meaning] at rounded
  cases written : Nat.toDigits 10 number with
  | nil => exact absurd written Nat.toDigits_ne_nil
  | cons digit others =>
    rw [written] at digits rounded
    have proper : Proper [digit] := ⟨by simp, by simp⟩
    have first : ∀ c ∈ [digit], c.isDigit = true := by
      intro c inside
      exact digits c (List.mem_cons.mpr (.inl (List.mem_singleton.mp inside)))
    have places (power : Int) (shift : power = exponent + others.length) :
        ofDecimal? ⟨negative, Nat.ofDigitChars 10 ([digit] ++ others) 0, power - others.length⟩ =
          some value := by
      rw [← rounded, List.singleton_append, shift, Int.add_sub_cancel]
    have shift : exponent + (digit :: others).length - 1 = exponent + others.length := by
      rw [List.length_cons]
      omega
    cases others with
    | nil =>
      refine readUnsigned_real proper first (undigited_exponent _ _) (readFraction_none ?_) (last _)
        (.inr rfl) (places _ shift)
      rintro c ⟨⟩
      decide
    | cons next others =>
      have behind : ∀ c ∈ next :: others, c.isDigit = true :=
        fun c inside => digits c (List.mem_cons_of_mem _ inside)
      have middle := readFraction_digits (by simp) behind
        (undigited_exponent (exponent + (digit :: next :: others).length - 1) rest)
      have text : Decimal.scientific (digit :: next :: others)
          (exponent + (digit :: next :: others).length - 1) ++ rest =
          [digit] ++ '.' :: (next :: others ++ (Decimal.exponentText
            (exponent + (digit :: next :: others).length - 1) ++ rest)) := by
        simp [Decimal.scientific]
      rw [text]
      exact readUnsigned_real proper first undigited_point middle (last _) (.inl (by simp))
        (places _ shift)

end Decimals

theorem readNumber_of_unsigned {text : List Char} {result : Json × List Char}
    (read : readUnsigned false text = some result) : readNumber text = some result := by
  unfold readNumber
  split
  next => cases read
  next => exact read

theorem readNumber_chars {decimal : Decimal} {value : Binary64}
    (rounded : ofDecimal? decimal = some value) (plain : decimal.digits ≠ 0 ∨ decimal.exponent = 0)
    (ends : Ends rest) : readNumber (decimal.chars ++ rest) = some (float value, rest) := by
  rcases decimal with ⟨negative, number, exponent⟩
  have unsigned : ∀ small : Bool, readUnsigned negative
      ((if small then Decimal.positional (Nat.toDigits 10 number)
        (exponent + (Nat.toDigits 10 number).length)
      else Decimal.scientific (Nat.toDigits 10 number)
        (exponent + (Nat.toDigits 10 number).length - 1)) ++ rest) = some (float value, rest) := by
    intro small
    cases small with
    | true => exact readUnsigned_positional rounded plain ends
    | false => exact readUnsigned_scientific rounded ends
  have read := unsigned (decide (-4 ≤ exponent + (Nat.toDigits 10 number).length - 1 ∧
    exponent + (Nat.toDigits 10 number).length - 1 < 16))
  simp only [decide_eq_true_eq] at read
  cases negative with
  | true => exact read
  | false => exact readNumber_of_unsigned read

theorem readNumber_text (x : Binary64) (ends : Ends rest) :
    readNumber (x.text.toList ++ rest) = some (float x, rest) := by
  have rounded := Binary64.ofDecimal?_shortest x
  rw [Binary64.text, String.toList_ofList]
  refine readNumber_chars rounded ?_ ends
  by_cases nothing : x.isZero = true
  · right
    rw [Binary64.shortest, if_pos nothing]
  · left
    intro none
    apply nothing
    rw [Binary64.ofDecimal?, if_pos (.inl none)] at rounded
    rw [← Option.some.inj rounded]
    rfl

theorem readNumber_toString (value : Int) (ends : Ends rest) :
    readNumber ((toString value).toList ++ rest) = some (int value, rest) := by
  cases value with
  | ofNat number =>
    have text : (toString (Int.ofNat number)).toList = Nat.toDigits 10 number := Nat.toList_repr
    rw [text]
    exact readNumber_of_unsigned (readUnsigned_toDigits number ends)
  | negSucc number =>
    have text : (toString (Int.negSucc number)).toList = '-' :: Nat.toDigits 10 (number + 1) := by
      change ("-" ++ (number + 1).repr).toList = _
      rw [String.toList_append, Nat.toList_repr]
      rfl
    rw [text]
    exact readUnsigned_toDigits (number + 1) ends

theorem head_of_readNumber {text : List Char} {result : Json × List Char}
    (read : readNumber text = some result) : ∃ c others, text = c :: others ∧
      (c = '-' ∨ c.isDigit = true) := by
  cases text with
  | nil => cases read
  | cons c others =>
    refine ⟨c, others, rfl, Decidable.byContradiction fun other => ?_⟩
    obtain ⟨sign, digit⟩ := not_or.mp other
    have unsigned : readNumber (c :: others) = readUnsigned false (c :: others) := by
      unfold readNumber
      split
      next equal =>
        cases equal
        exact absurd rfl sign
      next => rfl
    rw [unsigned, readUnsigned, splitDigits] at read
    simp [digit] at read

end Json

end SchemaCatalog
