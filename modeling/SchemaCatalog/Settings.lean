import SchemaCatalog.Casing
import SchemaCatalog.Check
import SchemaCatalog.Json.Display

/-! How models are named: a common prefix and suffix, the name of the root model, and the member by which
a schema names itself. Settings are read from an object or from a list of pairs; the name of the
root is put into camel case after its spelling has been checked.
-/
namespace SchemaCatalog

structure Settings where
  classPrefix : String := ""
  rootName : String := ""
  modelSuffix : String := "Model"
  overrideKey : String := "nameOverride"
deriving DecidableEq, Repr

namespace Settings

def modelName (settings : Settings) (base : String) : String :=
  settings.classPrefix ++ base ++ settings.modelSuffix

/-- The name of the root model when nothing overrides it. -/
def rootModelName (settings : Settings) : String := settings.modelName settings.rootName

def members (settings : Settings) : List (String × Json) := [
  ("class_prefix", .str settings.classPrefix),
  ("root_name", .str settings.rootName),
  ("model_suffix", .str settings.modelSuffix),
  ("name_override_key", .str settings.overrideKey)]

def fieldNames : List String := ["class_prefix", "root_name", "model_suffix", "name_override_key"]

/-- An entry whose key is no text cannot be a field. A flag or a whole number of 64 bits is shown as a
position, any other key by its text. -/
def keyStep : Json → Step
  | .bool value => .index value.toNat
  | .int position =>
    if -2 ^ 63 ≤ position ∧ position < 2 ^ 63 then .index position
    else .member (toString position)
  | key => .member key.display

/-- Complains of keys that are no field, in the order of the entries. -/
def noOtherEntries (entries : List (Json × Json)) : Check Unit :=
  let complaints := entries.filterMap fun (key, _) =>
    match key with
    | .str name => if fieldNames.contains name then none else some ⟨[.member name], .unexpected⟩
    | key => some ⟨[keyStep key], .unexpectedKey⟩
  if complaints.isEmpty then .ok () else .error complaints

def named (entries : List (Json × Json)) : List (String × Json) :=
  entries.filterMap fun (key, value) => key.text?.map fun name => (name, value)

def check (entries : List (Json × Json)) : Check Settings :=
  let fields := named entries
  let defaults : Settings := {}
  let classPrefix := Check.field fields "class_prefix" (some defaults.classPrefix) Check.word
  let rootName : Check String :=
    (Check.field fields "root_name" (some defaults.rootName) Check.word).map Casing.capitalize
  let modelSuffix := Check.field fields "model_suffix" (some defaults.modelSuffix) Check.word
  let overrideKey :=
    Check.field fields "name_override_key" (some defaults.overrideKey)
      fun value => (Check.name value).map (·.1)
  (classPrefix.both (rootName.both (modelSuffix.both (overrideKey.both
      (noOtherEntries entries))))).map
    fun (classPrefix, rootName, modelSuffix, overrideKey, _) =>
      { classPrefix, rootName, modelSuffix, overrideKey }

def ofEntries (entries : List (Json × Json)) : Except Failure Settings :=
  (check entries).verdict .settings

/-- The integer that a key is; a flag is zero or one. -/
def wholeKey? : Json → Option Int
  | .bool value => some value.toNat
  | .int value => some value
  | .float value => value.toInt?
  | _ => none

/-- Whether two keys are one: numbers and flags by their value, other keys by kind and text. -/
def sameKey (key other : Json) : Bool :=
  match wholeKey? key, wholeKey? other with
  | some key, some other => key = other
  | none, none => key.quoted = other.quoted
  | _, _ => false

/-- Entries with one set: a new key goes last, a known one keeps its place. -/
def setEntry (key value : Json) : List (Json × Json) → List (Json × Json)
  | [] => [(key, value)]
  | (other, old) :: rest =>
    if sameKey other key then (other, value) :: rest
    else (other, old) :: setEntry key value rest

/-- A key and a value, given as a list of two or as a text of two characters. -/
def pair (entry : Json) : Except Misuse (Json × Json) := do
  match ← entry.entries with
  | [key, value] => if key.isContainer then .error .unnameable else return (key, value)
  | _ => .error .unpaired

/-- The entries that data stand for: the members of an object, or pairs, the last of a key winning. -/
def entriesOf (data : Json) : Except Misuse (List (Json × Json)) :=
  if data.isEmpty then .ok []
  else
    match data with
    | .obj members => .ok (members.map fun (name, value) => (.str name, value))
    | data => do
      let pairs ← (← data.entries).mapM pair
      return pairs.foldl (fun known (key, value) => setEntry key value known) []

def ofJson (data : Json) : Except Failure Settings := do
  ofEntries (← Failure.ofMisuse (entriesOf data))

end Settings

end SchemaCatalog
