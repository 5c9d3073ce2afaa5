import SchemaCatalog.Failure
import SchemaCatalog.Json.Display

/-! References by name into a table of definitions. A chain of references is followed until a schema
that is none; the names on it never repeat, so a table of `n` definitions allows at most `n` steps.
A chain ends in a schema, in a repeated name, or at a name without a schema.
-/
namespace SchemaCatalog

/-- A schema reached through a chain of names, which is empty for a schema that is no reference. -/
structure Reference where
  schema : Json
  chain : List String
deriving Repr

def Reference.name? (reference : Reference) : Option String := reference.chain.getLast?

/-- The definitions of a document: a table, or a value of another kind, in which names can be looked
for but which holds no schema. -/
inductive Definitions
  | table (members : List (String × Json))
  | other (value : Json) (kind : value.isObject = false)
deriving Repr

namespace Definitions

/-- Nothing, or an empty value, stands for an empty table. -/
def ofJson (value : Json) : Definitions :=
  if value.isEmpty then table []
  else
    match value with
    | .obj members => table members
    | .arr items => other (.arr items) rfl
    | .str text => other (.str text) rfl
    | .float value => other (.float value) rfl
    | .int value => other (.int value) rfl
    | .bool value => other (.bool value) rfl
    | .null => other .null rfl

def toJson : Definitions → Json
  | table members => .obj members
  | other value _ => value

def names : Definitions → List String
  | table members => members.map (·.1)
  | other _ _ => []

/-- The most names a chain can have. -/
def size (definitions : Definitions) : Nat := definitions.names.length

def insertSorted (name : String) : List String → List String
  | [] => [name]
  | first :: rest => if name ≤ first then name :: first :: rest else first :: insertSorted name rest

def sorted (names : List String) : List String := names.foldr insertSorted []

/-- The names that could have been meant, in ascending order. A list of other things than texts has
no such order. -/
def available (definitions : Definitions) : Except Misuse (List String) :=
  match definitions.toJson.entries with
  | .ok entries =>
    let names := entries.filterMap Json.text?
    if names.length = entries.length then .ok (sorted names) else .error .unsortable
  | .error misuse => .error misuse

/-- The pointer that leads to a definition, up to its name. -/
def pointer : String := "#/definitions/"

def nameOf (reference : Json) (path : Option String) : Except Failure String :=
  match reference with
  | .str text =>
    if pointer.toList.isPrefixOf text.toList then
      let name := String.ofList (text.toList.drop pointer.length)
      if name.isEmpty then .error (.located (.definitionMissing text []) path) else .ok name
    else unsupported
  | _ => unsupported
where
  unsupported : Except Failure String :=
    .error (.detailed (.definitionMissing reference.display []) path
      ("unsupported $ref pointer form: " ++ reference.quoted))

def schemaOf (definitions : Definitions) (name : String) (path : Option String) :
    Except Failure Json := do
  if ← Failure.ofMisuse (definitions.toJson.holds name) then
    let target ← Failure.ofMisuse (definitions.toJson.entry name)
    if target.isObject then return target
    else
      .error (.detailed (.definitionMissing name (← Failure.ofMisuse definitions.available)) path
        ("definition '" ++ name ++ "' is a " ++ target.kindName ++ ", not a schema"))
  else
    .error (.located (.definitionMissing name (← Failure.ofMisuse definitions.available)) path)

/-- Follows references from a schema, having gone through the names of a chain. -/
def follow (definitions : Definitions) (path : Option String) :
    Nat → List String → Json → Except Failure Reference
  | budget, chain, schema => do
    if ← Failure.ofMisuse (schema.holds "$ref") then
      let name ← nameOf (← Failure.ofMisuse (schema.entry "$ref")) path
      if chain.contains name then .error (.located (.referenceCycle (chain ++ [name])) path)
      else
        let target ← definitions.schemaOf name path
        match budget with
        | 0 => .error .exhausted
        | budget + 1 => follow definitions path budget (chain ++ [name]) target
    else return ⟨schema, chain⟩

def resolve (definitions : Definitions) (schema : Json) (path : Option String) :
    Except Failure Reference :=
  definitions.follow path definitions.size [] schema

/-- What following a definition of the table gives, under its own name as the place. -/
def outcome (definitions : Definitions) (name : String) (schema : Json) : Except Failure Reference :=
  if schema.isObject then definitions.resolve schema (some (pointer ++ name))
  else .error (.located (.definitionNotObject name) none)

/-- What following each definition of the table gives, in order. -/
def outcomes (definitions : Definitions) : Except Failure (List (Except Failure Reference)) :=
  match definitions with
  | table members => .ok (members.map fun (name, schema) => definitions.outcome name schema)
  | other _ _ => .error (.misuse .memberless)

end Definitions

end SchemaCatalog
