import SchemaCatalog.Yaml.Cursor

/-! Dates and moments as YAML spells them: a year of four digits, a month and a day, and perhaps a time of
day after a letter or blanks, with a fraction of a second and an offset from universal time. The spelling
says nothing on whether there is such a day or time; `Timestamp.Valid` does.
-/
namespace SchemaCatalog.Yaml

structure Clock where
  hour : Nat
  minute : Nat
  second : Nat
  offset : Nat := 0
deriving DecidableEq, Repr

structure Timestamp where
  year : Nat
  month : Nat
  day : Nat
  clock : Option Clock := none
deriving DecidableEq, Repr

namespace Timestamp

/-- A number of at least one digit and at most so many. -/
def number? (least most : Nat) (text : List Char) : Option (Nat × List Char) :=
  let digits := text.takeWhile Char.isDigit
  if least ≤ digits.length ∧ digits.length ≤ most then
    some (digits.foldl (fun number c => 10 * number + (c.toNat - 48)) 0, text.drop digits.length)
  else none

def after? (mark : Char) : List Char → Option (List Char)
  | [] => none
  | c :: rest => if c = mark then some rest else none

/-- The minutes of an offset: none after nothing or the letter for universal time. -/
def offset? (text : List Char) : Option Nat :=
  match text.dropWhile isSpace with
  | [] => if text.isEmpty then some 0 else none
  | ['Z'] => some 0
  | sign :: digits =>
    if sign = '+' ∨ sign = '-' then do
      let (hours, rest) ← number? 1 2 digits
      if rest.isEmpty then some (60 * hours)
      else do
        let (minutes, rest) ← number? 2 2 (← after? ':' rest)
        if rest.isEmpty then some (60 * hours + minutes) else none
    else none

def clock? (text : List Char) : Option Clock := do
  let (hour, rest) ← number? 1 2 text
  let (minute, rest) ← number? 2 2 (← after? ':' rest)
  let (second, rest) ← number? 2 2 (← after? ':' rest)
  let rest := (after? '.' rest).elim rest (·.dropWhile Char.isDigit)
  return { hour, minute, second, offset := ← offset? rest }

/-- A date or a moment; its month and day may have one digit. -/
def ofChars? (text : List Char) : Option Timestamp := do
  let (year, rest) ← number? 4 4 text
  let (month, rest) ← number? 1 2 (← after? '-' rest)
  let (day, rest) ← number? 1 2 (← after? '-' rest)
  match rest with
  | [] => return { year, month, day }
  | c :: time =>
    if c = 'T' ∨ c = 't' then return { year, month, day, clock := some (← clock? time) }
    else if isSpace c then
      return { year, month, day, clock := some (← clock? (time.dropWhile isSpace)) }
    else none

def isLeap (year : Nat) : Bool := year % 4 = 0 && (year % 100 != 0 || year % 400 = 0)

def daysIn (year month : Nat) : Nat :=
  if month = 2 then if isLeap year then 29 else 28
  else if month ∈ [4, 6, 9, 11] then 30
  else 31

/-- There is such a day, since the year one, such a time on it, and the offset is less than a day. -/
def Valid (timestamp : Timestamp) : Prop :=
  1 ≤ timestamp.year ∧ 1 ≤ timestamp.month ∧ timestamp.month ≤ 12 ∧
    1 ≤ timestamp.day ∧ timestamp.day ≤ daysIn timestamp.year timestamp.month ∧
    ∀ clock ∈ timestamp.clock,
      clock.hour < 24 ∧ clock.minute < 60 ∧ clock.second < 60 ∧ clock.offset < 24 * 60

instance (timestamp : Timestamp) : Decidable timestamp.Valid :=
  inferInstanceAs (Decidable (_ ∧ _ ∧ _ ∧ _ ∧ _ ∧ _))

example : (⟨2020, 2, 29, none⟩ : Timestamp).Valid ∧ ¬(⟨2019, 2, 29, none⟩ : Timestamp).Valid := by
  decide

end Timestamp

end SchemaCatalog.Yaml
