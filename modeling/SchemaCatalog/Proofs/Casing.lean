import SchemaCatalog.Casing

/-! Laws of names in camel case. The table of upper cases is checked once, as a whole: what it maps to
is neither mapped again nor a separator. So the characters that begin the pieces stay what they are,
and where no separator is left, no piece is cut again. Main statement: a name in capitals has no
separators and is its own capitalization, and texts joined by a separator have theirs joined.
-/
namespace SchemaCatalog

namespace Unicode

/-- The union of sets of code points, which are numbers with one bit for each member. Two tables are then
compared in a single operation. -/
def union (sets : List Nat) : Nat := sets.foldl (· ||| ·) 0

def bits (codes : List Nat) : Nat := union (codes.map (1 <<< ·))

theorem testBit_union (sets : List Nat) (code : Nat) :
    (union sets).testBit code = sets.any (·.testBit code) := by
  have folded (known : Nat) :
      (sets.foldl (· ||| ·) known).testBit code = (known.testBit code || sets.any (·.testBit code)) := by
    induction sets generalizing known with
    | nil => simp
    | cons first rest ih => simp [ih, Bool.or_assoc]
  simpa [union] using folded 0

theorem testBit_bits (codes : List Nat) (code : Nat) :
    (bits codes).testBit code = decide (code ∈ codes) := by
  rw [bits, testBit_union, Bool.eq_iff_iff]
  simp [Nat.one_shiftLeft, Nat.testBit_two_pow]

theorem testBit_of_apart {first second : Nat} {code : Nat} (apart : first &&& second = 0)
    (inside : first.testBit code = true) : second.testBit code = false := by
  have common : (first &&& second).testBit code = false := by simp [apart]
  simpa [inside] using common

/-- So many code points, each a step from the one before, the first of them zero. -/
def spread (step count : Nat) : Nat := Nat.repeat (fun codes => codes <<< step ||| 1) count 0

theorem testBit_spread {step count place : Nat} (below : place < count) :
    (spread step count).testBit (step * place) = true := by
  induction count generalizing place with
  | zero => exact absurd below (Nat.not_lt_zero place)
  | succ count ih =>
    have moved : spread step (count + 1) = spread step count <<< step ||| 1 := rfl
    rw [moved, Nat.testBit_or, Nat.testBit_shiftLeft]
    cases place with
    | zero => simp
    | succ place => simp [Nat.mul_succ, ih (Nat.lt_of_succ_lt_succ below)]

namespace Run

variable {run : Run} {code : Nat}

def bitsFrom (run : Run) (first : Nat) : Nat :=
  spread run.step ((run.last - run.first) / run.step + 1) <<< first

theorem testBit_bitsFrom (holds : run.Holds code) (first : Nat) :
    (run.bitsFrom first).testBit (first + (code - run.first)) = true := by
  obtain ⟨above, below, whole⟩ := holds
  have place : (code - run.first) / run.step < (run.last - run.first) / run.step + 1 := by
    apply Nat.lt_succ_of_le
    apply Nat.div_le_div_right
    omega
  have member : (spread run.step _).testBit _ = true := testBit_spread place
  rw [Nat.mul_div_cancel' (Nat.dvd_of_mod_eq_zero whole)] at member
  simp [bitsFrom, Nat.testBit_shiftLeft, member]

end Run

/-- The code points that have an upper case of their own. -/
def mappedBits : Nat :=
  union (bits (upperSequences.map (·.1)) :: upperRuns.map fun run => run.bitsFrom run.first)

def upperBits : Nat :=
  union (bits (upperSequences.flatMap (·.2)) :: upperRuns.map fun run => run.bitsFrom run.target)

/-- Underscore, hyphen and the blanks. -/
def separatorCodes : List Nat :=
  0x5F :: 0x2D :: blankRanges.flatMap fun range => List.range' range.1 (range.2 + 1 - range.1)

/-- No upper case has an upper case of its own, or separates words. -/
theorem upperBits_apart :
    union [bits [0], upperBits] &&& union [mappedBits, bits separatorCodes] = 0 := by decide +kernel

theorem upper_of_unmapped {c : Char} (unmapped : mappedBits.testBit c.toNat = false) :
    upper c = [c] := by
  rw [mappedBits, testBit_union, List.any_cons, Bool.or_eq_false_iff, testBit_bits] at unmapped
  obtain ⟨keys, runs⟩ := unmapped
  have single : upperSequences.lookup c.toNat = none := by
    rw [List.lookup_eq_none_iff]
    intro entry inside
    apply bne_iff_ne.mpr
    intro same
    rw [same] at keys
    simp [List.mem_map_of_mem inside] at keys
  have free : upperRuns.find? (fun run => run.Holds c.toNat) = none := by
    rw [List.find?_eq_none]
    intro run inside holds
    have holds := of_decide_eq_true holds
    have member := Run.testBit_bitsFrom holds run.first
    rw [Nat.add_sub_cancel' holds.1] at member
    have beyond := List.any_eq_false.mp runs _ (List.mem_map_of_mem inside)
    exact beyond member
  simp [upper, mapped?, single, free]

theorem mem_upper {c d : Char} (inside : d ∈ upper c) :
    upper c = [c] ∨ ∃ code, upperBits.testBit code = true ∧ d = Char.ofNat code := by
  simp only [upperBits, testBit_union, List.any_cons, Bool.or_eq_true, testBit_bits,
    decide_eq_true_eq, List.any_eq_true]
  unfold upper at inside ⊢
  split at inside
  next codes found =>
    right
    obtain ⟨before, after, listed, -⟩ := List.lookup_eq_some_iff.mp found
    obtain ⟨code, known, made⟩ := List.mem_map.mp inside
    have entry : (c.toNat, codes) ∈ upperSequences := by simp [listed]
    exact ⟨code, .inl (List.mem_flatMap.mpr ⟨_, entry, known⟩), made.symm⟩
  next =>
    unfold mapped? at inside ⊢
    cases found : upperRuns.find? fun run => run.Holds c.toNat with
    | none =>
      left
      simp
    | some run =>
      right
      rw [found] at inside
      have holds := List.find?_some found
      have member := Run.testBit_bitsFrom (of_decide_eq_true holds) run.target
      refine ⟨run.apply c.toNat, .inr ⟨_, ?_, member⟩, List.mem_singleton.mp inside⟩
      exact List.mem_map_of_mem (List.mem_of_find?_eq_some found)

theorem apart_of_upperBits {code : Nat} (inside : upperBits.testBit code = true) :
    mappedBits.testBit (Char.ofNat code).toNat = false ∧ (Char.ofNat code).toNat ∉ separatorCodes := by
  -- a number that is no code point stands for the character zero
  have known : (union [bits [0], upperBits]).testBit (Char.ofNat code).toNat = true := by
    by_cases valid : code.isValidChar
    · have same : (Char.ofNat code).toNat = code := congrArg Char.toNat (dif_pos valid)
      simp [testBit_union, same, inside]
    · have zero : (Char.ofNat code).toNat = 0 := congrArg Char.toNat (dif_neg valid)
      rw [zero, testBit_union, List.any_cons, testBit_bits]
      rfl
  have apart := testBit_of_apart upperBits_apart known
  simpa [testBit_union, testBit_bits] using apart

theorem upper_of_mem_upper {c d : Char} (inside : d ∈ upper c) : upper d = [d] := by
  rcases mem_upper inside with fixed | ⟨code, known, rfl⟩
  · rw [fixed, List.mem_singleton] at inside
    rw [inside, fixed]
  · exact upper_of_unmapped (apart_of_upperBits known).1

theorem upper_ne_nil (c : Char) : upper c ≠ [] := by
  have filled : ∀ entry ∈ upperSequences, entry.2 ≠ [] := by decide +kernel
  unfold upper
  split
  next codes found =>
    obtain ⟨before, after, listed, -⟩ := List.lookup_eq_some_iff.mp found
    have entry : (c.toNat, codes) ∈ upperSequences := by simp [listed]
    simpa using filled _ entry
  next => simp

theorem beyond_ascii : (∀ entry ∈ upperSequences, 128 ≤ entry.1) ∧
    ∀ run ∈ upperRuns.tail, 128 ≤ run.first := by decide +kernel

theorem toUpper_of_code : ∀ code < 128, (Char.ofNat code).toUpper =
    if 0x61 ≤ code ∧ code ≤ 0x7A then Char.ofNat (0x41 + (code - 0x61)) else Char.ofNat code := by
  decide +kernel

theorem upper_ascii {c : Char} (ascii : c.toNat < 128) : upper c = [c.toUpper] := by
  have single : upperSequences.lookup c.toNat = none := by
    rw [List.lookup_eq_none_iff]
    intro entry inside
    have := beyond_ascii.1 entry inside
    simp
    omega
  have others : upperRuns.tail.find? (fun run => run.Holds c.toNat) = none := by
    rw [List.find?_eq_none]
    intro run inside holds
    have := beyond_ascii.2 run inside
    have := (of_decide_eq_true holds).1
    omega
  have known := toUpper_of_code c.toNat ascii
  rw [Char.ofNat_toNat] at known
  -- the first run is that of the small letters, and all others begin beyond
  have runs : upperRuns = ⟨0x61, 0x7A, 1, 0x41⟩ :: upperRuns.tail := rfl
  rw [upper, single, mapped?, runs, List.find?_cons, others, known]
  by_cases letter : 0x61 ≤ c.toNat ∧ c.toNat ≤ 0x7A <;> simp [Run.Holds, Run.apply, Nat.mod_one, letter]

end Unicode

namespace Casing

variable {c d : Char} {chars : List Char}

theorem mem_separatorCodes (separates : isSeparator c = true) : c.toNat ∈ Unicode.separatorCodes := by
  simp only [isSeparator, Bool.or_eq_true, beq_iff_eq, Unicode.isBlank, List.any_eq_true,
    Bool.and_eq_true, decide_eq_true_eq] at separates
  rcases separates with (rfl | rfl) | ⟨range, inside, above, below⟩
  · exact List.mem_cons_self
  · exact List.mem_cons_of_mem _ List.mem_cons_self
  · apply List.mem_cons_of_mem
    apply List.mem_cons_of_mem
    refine List.mem_flatMap.mpr ⟨range, inside, List.mem_range'.mpr ⟨c.toNat - range.1, ?_, ?_⟩⟩
    · omega
    · omega

/-- No separator comes of a character that is none itself. -/
theorem isSeparator_of_mem_upper (joins : isSeparator c = false) (inside : d ∈ Unicode.upper c) :
    isSeparator d = false := by
  rcases Unicode.mem_upper inside with fixed | ⟨code, known, rfl⟩
  · rw [fixed, List.mem_singleton] at inside
    rw [inside, joins]
  · rw [Bool.eq_false_iff]
    intro separates
    exact (Unicode.apart_of_upperBits known).2 (mem_separatorCodes separates)

/-- A separator ends one piece and begins another, whatever separators stand around it. -/
theorem joined_append (separates : isSeparator c = true) (starts : Bool) (chars more : List Char) :
    joined starts (chars ++ c :: more) = joined starts chars ++ joined true more := by
  induction chars generalizing starts with
  | nil => simp [joined, separates]
  | cons first rest ih => by_cases joins : isSeparator first <;> simp [joined, joins, ih]

theorem joined_separatorless (starts : Bool) :
    ∀ d ∈ joined starts chars, isSeparator d = false := by
  induction chars generalizing starts with
  | nil => simp [joined]
  | cons c rest ih =>
    intro d inside
    rw [joined] at inside
    split at inside
    next => exact ih _ d inside
    next joins =>
      rw [Bool.not_eq_true] at joins
      rcases List.mem_append.mp inside with here | later
      · cases starts with
        | false =>
          rw [List.mem_singleton.mp here]
          exact joins
        | true => exact isSeparator_of_mem_upper joins here
      · exact ih _ d later

theorem joined_of_separatorless (plain : ∀ c ∈ chars, isSeparator c = false) :
    joined false chars = chars := by
  induction chars with
  | nil => rfl
  | cons c rest ih =>
    rw [List.forall_mem_cons] at plain
    simp [joined, plain.1, ih plain.2]

theorem joined_of_upper (plain : ∀ c ∈ chars, isSeparator c = false)
    (large : ∀ c ∈ chars.head?, Unicode.upper c = [c]) : joined true chars = chars := by
  cases chars with
  | nil => rfl
  | cons c rest =>
    rw [List.forall_mem_cons] at plain
    have fixed : Unicode.upper c = [c] := large c rfl
    simp [joined, plain.1, fixed, joined_of_separatorless plain.2]

theorem upper_head_joined : ∀ d ∈ (joined true chars).head?, Unicode.upper d = [d] := by
  induction chars with
  | nil => simp [joined]
  | cons c rest ih =>
    rw [joined]
    split
    next => exact ih
    next =>
      intro d first
      obtain ⟨large, others, split⟩ := List.exists_cons_of_ne_nil (Unicode.upper_ne_nil c)
      simp only [if_true, split, List.cons_append, List.head?_cons, Option.mem_some_iff] at first
      subst first
      apply Unicode.upper_of_mem_upper
      rw [split]
      exact List.mem_cons_self

theorem toList_capitalize (text : String) : (capitalize text).toList = joined true text.toList := by
  simp [capitalize]

theorem capitalize_separatorless (text : String) :
    ∀ c ∈ (capitalize text).toList, isSeparator c = false := by
  rw [toList_capitalize]
  exact joined_separatorless true

theorem capitalize_capitalize (text : String) : capitalize (capitalize text) = capitalize text := by
  have fixed : joined true (joined true text.toList) = joined true text.toList :=
    joined_of_upper (joined_separatorless true) upper_head_joined
  rw [capitalize, toList_capitalize, fixed, capitalize]

theorem capitalize_append (separates : isSeparator c = true) (text more : String) :
    capitalize (text ++ String.singleton c ++ more) = capitalize text ++ capitalize more := by
  simp only [capitalize, String.toList_append, String.toList_singleton, List.append_assoc,
    List.singleton_append, joined_append separates, String.ofList_append]

/-- A name in capitals has no separators, it is in capitals for good, and two texts with a separator
between them give their names in capitals, one after the other. -/
theorem capitalize_laws (text : String) :
    (∀ c ∈ (capitalize text).toList, isSeparator c = false) ∧
    capitalize (capitalize text) = capitalize text ∧
    ∀ (c : Char) (more : String), isSeparator c = true →
      capitalize (text ++ String.singleton c ++ more) = capitalize text ++ capitalize more :=
  ⟨capitalize_separatorless text, capitalize_capitalize text,
    fun _ more separates => capitalize_append separates text more⟩

/-- The first character of each piece becomes two, and separators meet where the texts do. -/
theorem capitalize_laws_sharp :
    capitalize "ßa-" = "SSa" ∧ capitalize "_ŉb" = "ʼNb" ∧ isSeparator '\u00a0' = true ∧
    (∀ c ∈ (capitalize "ßa-").toList, isSeparator c = false) ∧
    capitalize (capitalize "ßa-") = capitalize "ßa-" ∧
    capitalize ("ßa-" ++ String.singleton '\u00a0' ++ "_ŉb") = capitalize "ßa-" ++ capitalize "_ŉb" := by
  obtain ⟨separatorless, fixed, append⟩ := capitalize_laws "ßa-"
  exact ⟨by decide +kernel, by decide +kernel, by decide, separatorless, fixed,
    append '\u00a0' "_ŉb" (by decide)⟩

end Casing

end SchemaCatalog
