import SchemaCatalog.Failure

/-! Checking a piece of data and collecting everything wrong with it. A check reads one JSON value;
checks of several fields run side by side, and the complaints of the earlier field come first.
-/
namespace SchemaCatalog

abbrev Check (α : Type) := Except (List Complaint) α

namespace Check

def complain {α : Type} (issue : Issue) : Check α := .error [⟨[], issue⟩]

/-- Both results, or the complaints of both. -/
def both {α β : Type} : Check α → Check β → Check (α × β)
  | .ok first, .ok second => .ok (first, second)
  | .ok _, .error complaints => .error complaints
  | .error complaints, .ok _ => .error complaints
  | .error complaints, .error more => .error (complaints ++ more)

def below {α : Type} (step : Step) : Check α → Check α
  | .ok value => .ok value
  | .error complaints =>
    .error (complaints.map fun complaint => ⟨step :: complaint.place, complaint.issue⟩)

/-- A field of an object; one with a fallback may be absent. -/
def field {α : Type} (members : List (String × Json)) (name : String) (fallback : Option α)
    (read : Json → Check α) : Check α :=
  match members.lookup name, fallback with
  | some value, _ => below (.member name) (read value)
  | none, some value => .ok value
  | none, none => .error [⟨[.member name], .missing⟩]

/-- Complains of every member outside the known names. -/
def noOthers (known : List String) (members : List (String × Json)) : Check Unit :=
  match members.filter fun member => !known.contains member.1 with
  | [] => .ok ()
  | others => .error (others.map fun member => ⟨[.member member.1], .unexpected⟩)

def itemsFrom {α : Type} (read : Json → Check α) : Nat → List Json → Check (List α)
  | _, [] => .ok []
  | position, item :: rest =>
    (both (below (.index position) (read item)) (itemsFrom read (position + 1) rest)).map
      fun (first, others) => first :: others

/-- A list of which every item passes a check; anything else raises the given issue. -/
def items {α : Type} (issue : Issue) (read : Json → Check α) : Json → Check (List α)
  | .arr values => itemsFrom read 0 values
  | _ => complain issue

def text : Json → Check String
  | .str text => .ok text
  | _ => complain .notText

def optionalText : Json → Check (Option String)
  | .null => .ok none
  | .str text => .ok (some text)
  | _ => complain .notText

def name : Json → Check { name : String // name ≠ "" }
  | .str text => if filled : text ≠ "" then .ok ⟨text, filled⟩ else complain .emptyText
  | _ => complain .notText

def isWordChar (c : Char) : Bool := c.isAlphanum || c == '_'

def word : Json → Check String
  | .str text => if text.toList.all isWordChar then .ok text else complain .notWord
  | _ => complain .notText

/-- The spellings of a flag, without regard to ASCII case. -/
def flagWord? (text : String) : Option Bool :=
  let lowered := String.ofList (text.toList.map Char.toLower)
  if ["0", "off", "f", "false", "n", "no"].contains lowered then some false
  else if ["1", "on", "t", "true", "y", "yes"].contains lowered then some true
  else none

/-- Zero or one. Other numbers of a signed 64-bit word are unclear, larger ones are no flag at all. -/
def flagOfWhole (value : Int) : Check Bool :=
  if value = 0 then .ok false
  else if value = 1 then .ok true
  else complain (if -2 ^ 63 ≤ value ∧ value < 2 ^ 63 then .unclearFlag else .notFlag)

/-- A flag, or a number or word that stands for one. A number with a point counts if it is whole and less
than `2 ^ 63` in magnitude. -/
def flag : Json → Check Bool
  | .bool value => .ok value
  | .int value => flagOfWhole value
  | .float value =>
    match value.toInt? with
    | some whole => if whole = -2 ^ 63 then complain .notFlag else flagOfWhole whole
    | none => complain .notFlag
  | .str text =>
    match flagWord? text with
    | some value => .ok value
    | none => complain .unclearFlag
  | _ => complain .notFlag

/-- The result for callers: a value, or the rejection of the subject. -/
def verdict {α : Type} (subject : Subject) : Check α → Except Failure α
  | .ok value => .ok value
  | .error complaints => .error (.rejected ⟨subject, complaints⟩)

end Check

end SchemaCatalog
