import SchemaCatalog.Failure
import SchemaCatalog.Json.Display
import SchemaCatalog.Schema.Kind
import SchemaCatalog.Tag

/-! The tag of a schema. An enumeration decides first, by the kinds of its literals; then a list of type
names, as a union; then a single type name. A null among the types makes the value optional, and an
optional number or flag is boxed.
-/
namespace SchemaCatalog

/-- A tag, and whether the value may be absent or null. -/
structure Inferred where
  tag : Tag
  optional : Bool
deriving DecidableEq, Repr

namespace Inferred

/-- A bound that admits no negative number. A flag is no bound. -/
def isNonnegative : Json → Bool
  | .int value => decide (0 ≤ value)
  | .float value => value.isNonnegative
  | _ => false

/-- The rule for one kind. Only whole numbers look at the schema, for its least value. -/
def ofKind (kind : Kind) (optional : Bool) (schema : Json) : Except Failure Inferred :=
  match kind with
  | .boolean => .ok ⟨if optional then .boxedNumber else .boolean, optional⟩
  | .number => .ok ⟨if optional then .boxedNumber else .number, optional⟩
  | .integer =>
    if optional then .ok ⟨.boxedNumber, optional⟩
    else do
      let minimum ← Failure.ofMisuse (schema.member? "minimum")
      return ⟨if (minimum.getD .null |> isNonnegative) then .unsignedInt else .signedInt, optional⟩
  | .null => .ok ⟨.dynamic, true⟩
  | .string => .ok ⟨.string, optional⟩
  | .object => .ok ⟨.object, optional⟩
  | .array => .ok ⟨.array, optional⟩

/-- The rule for one type name, where null stands for none. -/
def ofName (name : Json) (optional : Bool) (schema : Json) (path : Option String) :
    Except Failure Inferred :=
  match name with
  | .null => .error (.located .typeAbsent path)
  | .str text =>
    match Kind.ofName? text with
    | some kind => ofKind kind optional schema
    | none => .error (.located (.typeUnknown text) path)
  | name =>
    if name.isContainer then .error (.misuse .unnameable)
    else .error (.located (.typeUnknown name.display) path)

/-- The rule for a union. Null makes it optional and is dropped; one remaining kind follows its own
rule; numbers stay numbers unless optional, numbers and flags are boxed, and any other mix is dynamic. -/
def ofKinds (kinds : List Kind) (optional : Bool) (schema : Json) : Except Failure Inferred :=
  let optional := optional || kinds.contains .null
  match (kinds.filter (· ≠ .null)).eraseDups with
  | [kind] => ofKind kind optional schema
  | kinds =>
    if kinds.all ([Kind.integer, .number].contains ·) && !optional then .ok ⟨.number, optional⟩
    else if kinds.all ([Kind.boolean, .integer, .number].contains ·) then
      .ok ⟨.boxedNumber, optional⟩
    else .ok ⟨.dynamic, optional⟩

def kindOf (path : Option String) (name : Json) : Except Failure Kind :=
  match name.text?.bind Kind.ofName? with
  | some kind => .ok kind
  | none => .error (.located (.typeUnknown name.display) path)

def ofNames (names : Json) (optional : Bool) (schema : Json) (path : Option String) :
    Except Failure Inferred := do
  let entries ← Failure.ofMisuse names.entries
  ofKinds (← entries.mapM (kindOf path)) optional schema

def literalKind (path : Option String) (literal : Json) : Except Failure Kind :=
  match Kind.ofLiteral? literal with
  | some kind => .ok kind
  | none =>
    .error (.detailed .enumLiteralNested path ("unsupported enum literal: " ++ literal.quoted))

/-- The kinds of an enumeration's literals, in the order of their first use. -/
def literalKinds (enumeration : Json) (path : Option String) : Except Failure (List Kind) :=
  match enumeration with
  | .arr literals => do return (← literals.mapM (literalKind path)).eraseDups
  | other =>
    .error (.detailed .enumNotList path
      ("enum value was " ++ other.kindName ++ ": " ++ other.quoted))

/-- The tag of a schema that is no reference, in a context that may already be optional. -/
def ofSchema (schema : Json) (optional : Bool) (path : Option String) : Except Failure Inferred := do
  if ← Failure.ofMisuse (schema.holds "enum") then
    let kinds ← literalKinds (← Failure.ofMisuse (schema.entry "enum")) path
    ofKinds (kinds.map Kind.widened) optional schema
  else
    match (← Failure.ofMisuse (schema.member? "type")).getD .null with
    | .arr names => ofNames (.arr names) optional schema path
    | .null => ofName .null optional schema path
    | .str name => ofName (.str name) optional schema path
    | other => .error (.detailed .typeMalformed path ("type value was " ++ other.quoted))

end Inferred

def declaresProperties (schema : Json) (path : Option String) : Except Failure Bool := do
  match (← Failure.ofMisuse (schema.member? "properties")).getD .null with
  | .null => return false
  | .obj members => return !members.isEmpty
  | other =>
    .error (.detailed .propertiesNotObject path ("properties value was " ++ other.kindName))

end SchemaCatalog
