import SchemaCatalog.Number.Binary64

/-! JSON documents. Members of an object keep their order; whole numbers of any size and 64-bit numbers
are different values, and so are `true` and `1`. An object may be written down with a name twice;
`Distinct` says that none is, at any depth.
-/
namespace SchemaCatalog

inductive Json
  | null
  | bool (value : Bool)
  | int (value : Int)
  | float (value : Binary64)
  | str (text : String)
  | arr (items : List Json)
  | obj (members : List (String × Json))
deriving Inhabited, Repr

namespace Json

def kindName : Json → String
  | null => "NoneType"
  | bool _ => "bool"
  | int _ => "int"
  | float _ => "float"
  | str _ => "str"
  | arr _ => "list"
  | obj _ => "dict"

def isObject : Json → Bool
  | obj _ => true
  | _ => false

def isContainer : Json → Bool
  | arr _ | obj _ => true
  | _ => false

def text? : Json → Option String
  | str text => some text
  | _ => none

/-- Null, false, zero and everything empty. -/
def isEmpty : Json → Bool
  | null => true
  | bool value => !value
  | int value => value == 0
  | float value => value.isZero
  | str text => text.isEmpty
  | arr items => items.isEmpty
  | obj members => members.isEmpty

def ofText? (text : Option String) : Json := text.elim null str

mutual
/-- The number of values, names and characters in a document. -/
def weight : Json → Nat
  | null | bool _ | int _ | float _ => 1
  | str text => 1 + text.length
  | arr items => 1 + itemsWeight items
  | obj members => 1 + membersWeight members
def itemsWeight : List Json → Nat
  | [] => 0
  | item :: rest => weight item + itemsWeight rest
def membersWeight : List (String × Json) → Nat
  | [] => 0
  | (name, value) :: rest => 1 + name.length + weight value + membersWeight rest
end

mutual
/-- No object in the document has two members of one name. -/
def Distinct : Json → Prop
  | null | bool _ | int _ | float _ | str _ => True
  | arr items => ItemsDistinct items
  | obj members => (members.map (·.1)).Nodup ∧ MembersDistinct members
def ItemsDistinct : List Json → Prop
  | [] => True
  | item :: rest => Distinct item ∧ ItemsDistinct rest
def MembersDistinct : List (String × Json) → Prop
  | [] => True
  | (_, value) :: rest => Distinct value ∧ MembersDistinct rest
end

/-- Members with one set: a new name goes last, a known one keeps its place. -/
def setMember (name : String) (value : Json) : List (String × Json) → List (String × Json)
  | [] => [(name, value)]
  | (other, old) :: rest =>
    if other = name then (name, value) :: rest else (other, old) :: setMember name value rest

/-- The object of a list of members, the last of several with one name winning. -/
def ofMembers (members : List (String × Json)) : Json :=
  obj (members.foldl (fun known member => setMember member.1 member.2 known) [])

end Json

end SchemaCatalog
