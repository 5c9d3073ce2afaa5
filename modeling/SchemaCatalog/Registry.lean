import SchemaCatalog.Failure
import SchemaCatalog.Model

/-! The models of one run, in the order in which their names were reserved. A name is reserved together
with the fingerprint of its schema before the model is built, so that a schema which leads back to
itself finds its own name taken by itself; any other schema finds it taken by another.
-/
namespace SchemaCatalog

/-- A reserved name, and the model stored under it once that is built. -/
structure Slot where
  name : String
  fingerprint : String
  model : Option Model
deriving DecidableEq, Repr

structure Registry where
  slots : List Slot := []
deriving DecidableEq, Repr

namespace Registry

def names (registry : Registry) : List String := registry.slots.map (·.name)

def size (registry : Registry) : Nat := registry.slots.length

def slot? (registry : Registry) (name : String) : Option Slot :=
  registry.slots.find? (·.name == name)

def contains (registry : Registry) (name : String) : Bool := (registry.slot? name).isSome

def model? (registry : Registry) (name : String) : Option Model :=
  (registry.slot? name).bind (·.model)

/-- Claims a name for a schema. The answer is true for a new name, whose model has to be built then. -/
def reserve (registry : Registry) (name fingerprint : String) (path : Option String) :
    Except Failure (Bool × Registry) :=
  match registry.slot? name with
  | none => .ok (true, ⟨registry.slots ++ [⟨name, fingerprint, none⟩]⟩)
  | some slot =>
    if slot.fingerprint = fingerprint then .ok (false, registry)
    else
      .error (.detailed (.nameTaken name) path
        ("existing=" ++ slot.fingerprint ++ " conflicting=" ++ fingerprint))

/-- Stores a model under its name, which has to be reserved and still free. -/
def store (registry : Registry) (model : Model) : Except Failure Registry :=
  match registry.slot? model.name with
  | none => .error (.located (.modelUnreserved model.name) none)
  | some slot =>
    if slot.model.isSome then .error (.located (.nameTaken model.name) none)
    else
      .ok ⟨registry.slots.map fun slot =>
        if slot.name = model.name then { slot with model := some model } else slot⟩

def pending (registry : Registry) : List String :=
  (registry.slots.filter (·.model.isNone)).map (·.name)

/-- All models under their names, once every one of them is built. -/
def freeze (registry : Registry) : Except Failure (List (String × Model)) :=
  if registry.pending.isEmpty then
    .ok (registry.slots.filterMap fun slot => slot.model.map fun model => (slot.name, model))
  else .error (.located (.modelsUnbuilt registry.pending) none)

end Registry

end SchemaCatalog
