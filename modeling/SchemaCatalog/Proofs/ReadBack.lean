import SchemaCatalog.Json.Writer
import SchemaCatalog.Proofs.Characters
import SchemaCatalog.Proofs.Numerals

/-! Documents survive being written as text, in either layout. A value is read back wherever it stands,
given a step of budget for each value and each place in a list or an object. Main statement: the text
of a document spells that document, so documents with one text are equal.
-/
namespace SchemaCatalog.Json

mutual
def steps : Json → Nat
  | arr items => 1 + itemsSteps items
  | obj members => 1 + membersSteps members
  | _ => 1
def itemsSteps : List Json → Nat
  | [] => 0
  | item :: rest => 1 + steps item + itemsSteps rest
def membersSteps : List (String × Json) → Nat
  | [] => 0
  | (_, value) :: rest => 1 + steps value + membersSteps rest
end

variable {layout : Layout} {depth budget : Nat} {c : Char} {name : String} {text rest : List Char}
  {value : Json} {result : Json × List Char}

theorem skipBlank_cons (plain : isJsonBlank c = false) : skipBlank (c :: rest) = c :: rest := by
  rw [skipBlank, List.dropWhile_cons, plain]
  rfl

theorem skipBlank_gap (layout : Layout) (depth : Nat) (rest : List Char) :
    skipBlank (layout.gap depth ++ rest) = skipBlank rest := by
  refine List.dropWhile_append_of_pos ?_
  intro c inside
  cases layout with
  | compact => cases inside
  | indented =>
    rcases List.mem_cons.mp inside with rfl | inside
    · rfl
    · rw [List.eq_of_mem_replicate inside]
      rfl

theorem ends_gap (ends : Ends rest) : Ends (layout.gap depth ++ rest) := by
  cases layout with
  | compact => exact ends
  | indented =>
    rintro c ⟨⟩
    decide

theorem ends_cons (other : c.isDigit = false ∧ c ≠ '.' ∧ c ≠ 'e' ∧ c ≠ 'E') : Ends (c :: rest) := by
  rintro _ ⟨⟩
  exact other

theorem ends_writeItems (layout : Layout) (depth : Nat) (items : List Json) (ends : Ends rest) :
    Ends (writeItems layout depth items rest) := by
  cases items with
  | nil => exact ends
  | cons item items => exact ends_cons (by decide)

theorem ends_writeMembers (layout : Layout) (depth : Nat) (members : List (String × Json)) (ends : Ends rest) :
    Ends (writeMembers layout depth members rest) := by
  cases members with
  | nil => exact ends
  | cons member members => exact ends_cons (by decide)

theorem readValue_skip (same : skipBlank text = skipBlank rest) :
    readValue budget text = readValue budget rest := by
  cases budget with
  | zero => rfl
  | succ budget => simp only [readValue, same]

theorem readValue_scalar {others : List Char} (text : rest = c :: others)
    (plain : isJsonBlank c = false) (list : c ≠ '[') (object : c ≠ '\x7b') :
    readValue (budget + 1) rest = readScalar rest := by
  subst text
  rw [readValue, skipBlank_cons plain]
  split
  next equal => cases equal; exact absurd rfl list
  next equal => cases equal; exact absurd rfl object
  next => rfl

theorem readValue_number (read : readNumber text = some result) :
    readValue (budget + 1) text = some result := by
  obtain ⟨c, others, rfl, first⟩ := head_of_readNumber read
  have different (other : Char) (sign : other ≠ '-') (plain : other.isDigit = false) : c ≠ other := by
    rintro rfl
    rcases first with first | first
    · exact sign first
    · rw [plain] at first
      cases first
  have solid : isJsonBlank c = false := by
    simp only [isJsonBlank, Bool.or_eq_false_iff, beq_eq_false_iff_ne]
    refine ⟨⟨⟨?_, ?_⟩, ?_⟩, ?_⟩ <;> exact different _ (by decide) (by decide)
  rw [readValue_scalar rfl solid (different _ (by decide) (by decide))
    (different _ (by decide) (by decide))]
  unfold readScalar
  split
  next equal => cases equal; exact absurd rfl (different '"' (by decide) (by decide))
  next equal => cases equal; exact absurd rfl (different 'n' (by decide) (by decide))
  next equal => cases equal; exact absurd rfl (different 't' (by decide) (by decide))
  next equal => cases equal; exact absurd rfl (different 'f' (by decide) (by decide))
  next => exact read

theorem readValue_text (text : String) (rest : List Char) :
    readValue (budget + 1) (writeText text rest) = some (str text, rest) := by
  have read := unescape_escape text.toList rest
  have scalar : readValue (budget + 1) (writeText text rest) = readScalar (writeText text rest) :=
    readValue_scalar rfl (by decide) (by decide) (by decide)
  rw [scalar]
  change Option.map _ (unescape none (escape text.toList ++ '"' :: rest)) = _
  rw [read, Option.map_some]
  dsimp only
  rw [String.ofList_toList]

theorem write_list (layout : Layout) (depth : Nat) (item : Json) (items : List Json)
    (rest : List Char) : write layout depth (arr (item :: items)) rest =
      '[' :: (layout.gap (depth + 1) ++ write layout (depth + 1) item
        (writeItems layout (depth + 1) items (layout.gap depth ++ ']' :: rest))) := rfl

theorem write_object (layout : Layout) (depth : Nat) (name : String) (value : Json)
    (members : List (String × Json)) (rest : List Char) :
    write layout depth (obj ((name, value) :: members)) rest =
      '\x7b' :: (layout.gap (depth + 1) ++ writeText name (layout.colon ++
        write layout (depth + 1) value (writeMembers layout (depth + 1) members
          (layout.gap depth ++ '\x7d' :: rest)))) := rfl

/-- Members without a name twice are those of their object. -/
theorem ofMembers_of_nodup {members : List (String × Json)} (distinct : (members.map (·.1)).Nodup) :
    ofMembers members = obj members := by
  have append (known : List (String × Json)) (name : String) (value : Json)
      (fresh : name ∉ known.map (·.1)) : setMember name value known = known ++ [(name, value)] := by
    induction known with
    | nil => rfl
    | cons first known ih =>
      obtain ⟨other, old⟩ := first
      simp only [List.map_cons, List.mem_cons, not_or] at fresh
      rw [setMember, if_neg (Ne.symm fresh.1), ih fresh.2]
      rfl
  have folded (known members : List (String × Json)) (distinct : ((known ++ members).map (·.1)).Nodup) :
      members.foldl (fun known member => setMember member.1 member.2 known) known =
        known ++ members := by
    induction members generalizing known with
    | nil => simp
    | cons first members ih =>
      have fresh : first.1 ∉ known.map (·.1) := by
        rw [List.map_append, List.map_cons] at distinct
        intro inside
        exact (List.nodup_append.mp distinct).2.2 _ inside _ List.mem_cons_self rfl
      rw [List.foldl_cons, append known first.1 first.2 fresh, ih]
      · simp
      · simpa using distinct
  exact congrArg obj (folded [] members distinct)

theorem head_of_number {text : List Char} (read : ∀ rest, Ends rest →
    readNumber (text ++ rest) = some (value, rest)) :
    ∃ c others, text = c :: others ∧ isJsonBlank c = false ∧ c ≠ ']' := by
  have alone := read [] (by rintro c ⟨⟩)
  rw [List.append_nil] at alone
  obtain ⟨c, others, equal, first⟩ := head_of_readNumber alone
  refine ⟨c, others, equal, ?_⟩
  rcases first with rfl | digit
  · decide
  · constructor
    · simp only [isJsonBlank, Bool.or_eq_false_iff, beq_eq_false_iff_ne]
      refine ⟨⟨⟨?_, ?_⟩, ?_⟩, ?_⟩ <;> (rintro rfl; cases digit)
    · rintro rfl
      cases digit

/-- A value begins with a character that is no blank and does not close a list. -/
theorem head_write (layout : Layout) (depth : Nat) (value : Json) (rest : List Char) :
    ∃ c others, write layout depth value rest = c :: others ∧ isJsonBlank c = false ∧ c ≠ ']' := by
  have text {first : List Char} (begins : ∃ c others, first = c :: others ∧ isJsonBlank c = false ∧
      c ≠ ']') : ∃ c others, first ++ rest = c :: others ∧ isJsonBlank c = false ∧ c ≠ ']' := by
    obtain ⟨c, others, equal, plain⟩ := begins
    exact ⟨c, others ++ rest, by rw [equal]; rfl, plain⟩
  cases value with
  | null => exact ⟨'n', _, rfl, by decide⟩
  | bool flag => cases flag <;> exact ⟨_, _, rfl, by decide⟩
  | int value => exact text (head_of_number fun _ => readNumber_toString value)
  | float value => exact text (head_of_number fun _ => readNumber_text value)
  | str text => exact ⟨'"', _, rfl, by decide⟩
  | arr items => cases items <;> exact ⟨'[', _, rfl, by decide⟩
  | obj members => cases members <;> exact ⟨'\x7b', _, rfl, by decide⟩

theorem ends_close (layout : Layout) (depth : Nat) (rest : List Char) :
    Ends (layout.gap depth ++ ']' :: rest) ∧ Ends (layout.gap depth ++ '\x7d' :: rest) :=
  ⟨ends_gap (ends_cons (by decide)), ends_gap (ends_cons (by decide))⟩

theorem readValue_list (some : ∀ others, skipBlank rest ≠ ']' :: others) :
    readValue (budget + 1) ('[' :: rest) =
      (readItems budget rest).map fun (items, rest) => (arr items, rest) := by
  rw [readValue, skipBlank_cons (by rfl)]
  split
  next equal =>
    cases equal
    split
    next others close => exact absurd close (some others)
    next => rfl
  next equal => cases equal
  next other _ => exact absurd rfl (other rest)

theorem readValue_object (some : ∀ others, skipBlank rest ≠ '\x7d' :: others) :
    readValue (budget + 1) ('\x7b' :: rest) =
      (readMembers budget rest).map fun (members, rest) => (ofMembers members, rest) := by
  rw [readValue, skipBlank_cons (by rfl)]
  split
  next equal => cases equal
  next equal =>
    cases equal
    split
    next others close => exact absurd close (some others)
    next => rfl
  next _ other => exact absurd rfl (other rest)

theorem colon_append (layout : Layout) (text : List Char) :
    ∃ after, layout.colon ++ text = ':' :: after ∧ skipBlank after = skipBlank text := by
  cases layout with
  | compact => exact ⟨text, rfl, rfl⟩
  | indented => exact ⟨' ' :: text, rfl, rfl⟩

theorem readItems_last {item : Json} {after : List Char} (read : readValue budget text = some (item, after))
    (close : skipBlank after = ']' :: rest) :
    readItems (budget + 1) text = some ([item], rest) := by
  rw [readItems, read]
  dsimp only
  rw [close]
  rfl

theorem readItems_more {item : Json} {after : List Char} (read : readValue budget text = some (item, after))
    (comma : skipBlank after = ',' :: rest) :
    readItems (budget + 1) text =
      (readItems budget rest).map fun (items, rest) => (item :: items, rest) := by
  rw [readItems, read]
  dsimp only
  rw [comma]
  rfl

theorem skipBlank_member (layout : Layout) (depth : Nat) (name : String) (text : List Char) :
    ∃ after, skipBlank (layout.gap depth ++ writeText name (layout.colon ++ text)) =
        '"' :: (escape name.toList ++ '"' :: ':' :: after) ∧ skipBlank after = skipBlank text := by
  obtain ⟨after, colon, same⟩ := colon_append layout text
  refine ⟨after, ?_, same⟩
  rw [skipBlank_gap, colon]
  exact skipBlank_cons (by rfl)

theorem readMembers_last {value : Json} {after : List Char}
    (read : readValue budget text = some (value, after)) (close : skipBlank after = '\x7d' :: rest) :
    readMembers (budget + 1) (layout.gap depth ++ writeText name (layout.colon ++ text)) =
      some ([(name, value)], rest) := by
  obtain ⟨blank, skipped, same⟩ := skipBlank_member layout depth name text
  have solid : isJsonBlank ':' = false := rfl
  rw [← readValue_skip same] at read
  rw [readMembers, skipped]
  simp only [unescape_escape, skipBlank_cons solid, read, close, String.ofList_toList]

theorem readMembers_more {value : Json} {after : List Char}
    (read : readValue budget text = some (value, after)) (comma : skipBlank after = ',' :: rest) :
    readMembers (budget + 1) (layout.gap depth ++ writeText name (layout.colon ++ text)) =
      (readMembers budget rest).map fun (members, rest) => ((name, value) :: members, rest) := by
  obtain ⟨blank, skipped, same⟩ := skipBlank_member layout depth name text
  have solid : isJsonBlank ':' = false := rfl
  rw [← readValue_skip same] at read
  rw [readMembers, skipped]
  simp only [unescape_escape, skipBlank_cons solid, read, comma, String.ofList_toList]

mutual
/-- A value is read back from its text, whatever follows that does not go on a number. -/
theorem readValue_write (layout : Layout) (depth : Nat) :
    ∀ (budget : Nat) (value : Json) (rest : List Char), value.Distinct → value.steps ≤ budget →
      Ends rest → readValue budget (write layout depth value rest) = some (value, rest)
  | 0, value, rest, _, enough, _ => by
    have some : 0 < value.steps := by cases value <;> simp only [steps] <;> omega
    omega
  | budget + 1, value, rest, distinct, enough, ends => by
    cases value with
    | null => rfl
    | bool flag => cases flag <;> rfl
    | int value => exact readValue_number (readNumber_toString value ends)
    | float value => exact readValue_number (readNumber_text value ends)
    | str text => exact readValue_text text rest
    | arr items =>
      cases items with
      | nil => rfl
      | cons item items =>
        have inner : itemsSteps (item :: items) ≤ budget := by
          rw [steps] at enough
          omega
        have read := readItems_write layout (depth + 1) budget item items depth rest distinct inner
        obtain ⟨c, others, first, plain, inside⟩ := head_write layout (depth + 1) item
          (writeItems layout (depth + 1) items (layout.gap depth ++ ']' :: rest))
        rw [write_list]
        -- what follows the bracket is an item, whose first character closes no list
        refine (readValue_list fun after close => ?_).trans (by rw [read]; rfl)
        rw [skipBlank_gap, first, skipBlank_cons plain] at close
        cases close
        exact inside rfl
    | obj members =>
      cases members with
      | nil => rfl
      | cons member members =>
        obtain ⟨name, value⟩ := member
        have inner : membersSteps ((name, value) :: members) ≤ budget := by
          rw [steps] at enough
          omega
        have read := readMembers_write layout (depth + 1) budget name value members depth rest
          distinct.2 inner
        rw [write_object]
        refine (readValue_object fun after close => ?_).trans ?_
        · have quote {after : List Char} : skipBlank (writeText name after) = writeText name after :=
            skipBlank_cons (by rfl)
          rw [skipBlank_gap, quote] at close
          cases close
        · rw [read, Option.map_some]
          dsimp only
          rw [ofMembers_of_nodup distinct.1]
theorem readItems_write (layout : Layout) (depth : Nat) :
    ∀ (budget : Nat) (item : Json) (items : List Json) (outer : Nat) (rest : List Char),
      ItemsDistinct (item :: items) → itemsSteps (item :: items) ≤ budget →
      readItems budget (layout.gap depth ++ write layout depth item
        (writeItems layout depth items (layout.gap outer ++ ']' :: rest))) =
        some (item :: items, rest)
  | 0, item, items, _, _, _, enough => by
    rw [itemsSteps] at enough
    omega
  | budget + 1, item, items, outer, rest, distinct, enough => by
    rw [itemsSteps] at enough
    have ends := ends_writeItems layout depth items
      (ends_close layout outer rest).1
    have read := readValue_write layout depth budget item _ distinct.1 (by omega) ends
    rw [← readValue_skip (skipBlank_gap layout depth _)] at read
    cases items with
    | nil =>
      refine readItems_last read ?_
      rw [writeItems, skipBlank_gap]
      exact skipBlank_cons (by rfl)
    | cons next items =>
      have later := readItems_write layout depth budget next items outer rest distinct.2 (by omega)
      have comma : skipBlank (writeItems layout depth (next :: items)
          (layout.gap outer ++ ']' :: rest)) = ',' :: (layout.gap depth ++ write layout depth next
            (writeItems layout depth items (layout.gap outer ++ ']' :: rest))) :=
        skipBlank_cons (by rfl)
      rw [readItems_more read comma, later]
      rfl
theorem readMembers_write (layout : Layout) (depth : Nat) :
    ∀ (budget : Nat) (name : String) (value : Json) (members : List (String × Json)) (outer : Nat)
      (rest : List Char), MembersDistinct ((name, value) :: members) →
      membersSteps ((name, value) :: members) ≤ budget →
      readMembers budget (layout.gap depth ++ writeText name (layout.colon ++
        write layout depth value (writeMembers layout depth members
          (layout.gap outer ++ '\x7d' :: rest)))) = some ((name, value) :: members, rest)
  | 0, _, _, _, _, _, _, enough => by
    rw [membersSteps] at enough
    omega
  | budget + 1, name, value, members, outer, rest, distinct, enough => by
    rw [membersSteps] at enough
    have ends := ends_writeMembers layout depth members
      (ends_close layout outer rest).2
    have read := readValue_write layout depth budget value _ distinct.1 (by omega) ends
    cases members with
    | nil =>
      refine readMembers_last read ?_
      rw [writeMembers, skipBlank_gap]
      exact skipBlank_cons (by rfl)
    | cons next members =>
      obtain ⟨other, known⟩ := next
      have later := readMembers_write layout depth budget other known members outer rest distinct.2
        (by omega)
      have comma : skipBlank (writeMembers layout depth ((other, known) :: members)
          (layout.gap outer ++ '\x7d' :: rest)) = ',' :: (layout.gap depth ++ writeText other
            (layout.colon ++ write layout depth known (writeMembers layout depth members
              (layout.gap outer ++ '\x7d' :: rest)))) := skipBlank_cons (by rfl)
      rw [readMembers_more read comma, later]
      rfl
end

theorem length_word (word : List Char) (some : word ≠ []) (rest : List Char) :
    1 + rest.length ≤ (word ++ rest).length := by
  rw [List.length_append]
  exact Nat.add_le_add_right (List.length_pos_iff.mpr some) _

mutual
theorem steps_le_length (layout : Layout) (depth : Nat) : ∀ (value : Json) (rest : List Char),
    value.steps + rest.length ≤ (write layout depth value rest).length
  | null, rest => length_word "null".toList (by decide) rest
  | bool true, rest => length_word "true".toList (by decide) rest
  | bool false, rest => length_word "false".toList (by decide) rest
  | int value, rest => by
    obtain ⟨c, others, equal, -⟩ := head_of_number fun _ => readNumber_toString value
    exact length_word (toString value).toList (by rw [equal]; nofun) rest
  | float value, rest => by
    obtain ⟨c, others, equal, -⟩ := head_of_number fun _ => readNumber_text value
    exact length_word value.text.toList (by rw [equal]; nofun) rest
  | str text, rest => by
    change 1 + rest.length ≤ (writeText text rest).length
    simp only [writeText, List.length_append, List.length_cons]
    omega
  | arr [], rest => by
    change 1 + rest.length ≤ ('[' :: ']' :: rest).length
    simp only [List.length_cons]
    omega
  | arr (item :: items), rest => by
    have first := steps_le_length layout (depth + 1) item
      (writeItems layout (depth + 1) items (layout.gap depth ++ ']' :: rest))
    have others := itemsSteps_le_length layout (depth + 1) items (layout.gap depth ++ ']' :: rest)
    rw [write_list]
    simp only [steps, itemsSteps, List.length_append, List.length_cons] at first others ⊢
    omega
  | obj [], rest => by
    change 1 + rest.length ≤ ('\x7b' :: '\x7d' :: rest).length
    simp only [List.length_cons]
    omega
  | obj ((name, value) :: members), rest => by
    have first := steps_le_length layout (depth + 1) value
      (writeMembers layout (depth + 1) members (layout.gap depth ++ '\x7d' :: rest))
    have others := membersSteps_le_length layout (depth + 1) members
      (layout.gap depth ++ '\x7d' :: rest)
    rw [write_object]
    simp only [steps, membersSteps, writeText, List.length_append, List.length_cons] at first others ⊢
    omega
theorem itemsSteps_le_length (layout : Layout) (depth : Nat) : ∀ (items : List Json)
    (rest : List Char), itemsSteps items + rest.length ≤ (writeItems layout depth items rest).length
  | [], rest => by simp only [itemsSteps, writeItems]; omega
  | item :: items, rest => by
    have first := steps_le_length layout depth item (writeItems layout depth items rest)
    have others := itemsSteps_le_length layout depth items rest
    simp only [itemsSteps, writeItems, List.length_append, List.length_cons]
    omega
theorem membersSteps_le_length (layout : Layout) (depth : Nat) :
    ∀ (members : List (String × Json)) (rest : List Char),
      membersSteps members + rest.length ≤ (writeMembers layout depth members rest).length
  | [], rest => by simp only [membersSteps, writeMembers]; omega
  | (name, value) :: members, rest => by
    have first := steps_le_length layout depth value (writeMembers layout depth members rest)
    have others := membersSteps_le_length layout depth members rest
    simp only [membersSteps, writeMembers, writeText, List.length_append, List.length_cons]
    omega
end

theorem parse?_render (layout : Layout) {document : Json} (distinct : document.Distinct) :
    parse? (document.render layout) = some document := by
  have nothing : Ends [] := by
    rintro c ⟨⟩
  have enough : document.steps ≤ (write layout 0 document []).length + 1 :=
    Nat.le_succ_of_le (steps_le_length layout 0 document [])
  have read := readValue_write layout 0 _ document [] distinct enough nothing
  rw [parse?, render, String.toList_ofList, String.length_ofList, read]
  rfl

theorem render_injective {layout : Layout} {document other : Json} (distinct : document.Distinct)
    (distinct' : other.Distinct) (same : document.render layout = other.render layout) :
    document = other := by
  have read := parse?_render layout distinct
  rw [same, parse?_render layout distinct'] at read
  exact (Option.some.inj read).symm

end SchemaCatalog.Json
