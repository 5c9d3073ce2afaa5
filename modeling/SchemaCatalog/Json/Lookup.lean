import SchemaCatalog.Json.Basic
import SchemaCatalog.Misuse

/-! Looking a name up in any JSON value. Schemas are written by hand, so a value of another kind may
stand where an object is expected; `Misuse` says what could not be done with it. Asking whether a
name occurs also makes sense for a list (as an item) and for a text (as a part of it), but only an
object yields the value of a member.
-/
namespace SchemaCatalog

def occursIn (part : List Char) : List Char → Bool
  | [] => part.isEmpty
  | c :: rest => part.isPrefixOf (c :: rest) || occursIn part rest

namespace Json

def holds (name : String) : Json → Except Misuse Bool
  | obj members => .ok (members.any (·.1 == name))
  | arr items => .ok (items.any fun item => item.text? == some name)
  | str text => .ok (occursIn name.toList text.toList)
  | _ => .error .unsearchable

def member? (name : String) : Json → Except Misuse (Option Json)
  | obj members => .ok (members.lookup name)
  | _ => .error .memberless

/-- The entry that goes by a name, where one is known to occur. -/
def entry (name : String) : Json → Except Misuse Json
  | obj members =>
    match members.lookup name with
    | some value => .ok value
    | none => .error .memberMissing
  | _ => .error .unindexable

theorem mem_of_lookup {name : String} {value : Json} {members : List (String × Json)}
    (found : members.lookup name = some value) : (name, value) ∈ members := by
  obtain ⟨before, after, equal, -⟩ := List.lookup_eq_some_iff.mp found
  simp [equal]

theorem entry_eq_ok {name : String} {value found : Json} :
    value.entry name = .ok found ↔ value.member? name = .ok (some found) := by
  cases value with
  | obj members => cases known : members.lookup name <;> simp [entry, member?, known]
  | _ => simp [entry, member?]

theorem member?_eq_ok {name : String} {value : Json} {found : Option Json} :
    value.member? name = .ok found ↔ ∃ members, value = obj members ∧ members.lookup name = found := by
  cases value <;> simp [member?]

/-- Values in order: the items of a list, the characters of a text, the names of an object. -/
def entries : Json → Except Misuse (List Json)
  | arr items => .ok items
  | str text => .ok (text.toList.map fun c => str (String.singleton c))
  | obj members => .ok (members.map fun member => str member.1)
  | _ => .error .unlistable

end Json

end SchemaCatalog
