import SchemaCatalog.Registry
import SchemaCatalog.Schema.Reference
import SchemaCatalog.Settings
import SchemaCatalog.Tag
import SchemaCatalog.Fingerprint

/-! Runs: computations over a registry that keep a record of what happened. A failure ends a run but not
its progress, so reserved names and events stay. The log of a run is what its events say; some
events are silent and only tell which schemas were reached under which models.
-/
namespace SchemaCatalog

/-- An object schema at the place where it was reached, with the base name it has there. -/
structure Site where
  schema : Json
  base : String
  path : String
deriving Repr

inductive Event
  | started (settings : Settings)
  /-- a chain of references was followed to its end -/
  | followed (chain : List String)
  /-- a schema was reached while the enclosing models, innermost first, were being built -/
  | reached (site : Site) (enclosing : List String)
  | reserved (name : String)
  | stored (model : Model)
  | raised (problem : Problem)
  | rootless (tag : Tag)
  | finished (models : Nat)
  | abandoned (problem : Problem)
deriving Repr

inductive Level
  | debug
  | info
  | error
deriving DecidableEq, Repr

inductive LogLine
  | message (level : Level) (text : String)
  | report (problem : Problem) (details : String)
deriving DecidableEq, Repr

/-- What an event adds to the log. Problems are reported there only for their details. -/
def Event.line? : Event → Option LogLine
  | started settings =>
    some (.message .info ("Resolving schema: prefix=" ++ Text.quoted settings.classPrefix ++
      ", root=" ++ Text.quoted settings.rootName))
  | followed chain =>
    if chain.isEmpty then none
    else some (.message .debug ("Resolved $ref chain " ++ " -> ".intercalate chain))
  | reached _ _ => none
  | reserved name => some (.message .debug ("Reserved model name " ++ name))
  | stored model =>
    some (.message .debug ("Registered model " ++ model.name ++ " with " ++
      toString model.properties.length ++ " properties"))
  | raised problem =>
    match problem.details with
    | some details => if details.isEmpty then none else some (.report problem details)
    | none => none
  | rootless tag => some (.message .debug ("Root schema is " ++ tag.name ++ "; no root model"))
  | finished models => some (.message .info ("Resolved " ++ toString models ++ " models"))
  | abandoned problem => some (.message .error ("Schema resolution failed: " ++ problem.message))

/-- A registry and the events so far, the latest first. -/
structure Progress where
  registry : Registry := {}
  events : List Event := []
deriving Repr

namespace Progress

def log (progress : Progress) : List LogLine := progress.events.reverse.filterMap Event.line?

def noting (progress : Progress) (event : Event) : Progress :=
  { progress with events := event :: progress.events }

/-- A problem is recorded as it comes up. -/
def failing (progress : Progress) : Failure → Progress
  | .problem problem => progress.noting (.raised problem)
  | _ => progress

@[simp] theorem registry_noting (progress : Progress) (event : Event) :
    (progress.noting event).registry = progress.registry := rfl

@[simp] theorem registry_failing (progress : Progress) (failure : Failure) :
    (progress.failing failure).registry = progress.registry := by
  cases failure <;> rfl

end Progress

/-- A computation that may fail, and makes progress either way. -/
abbrev Run (α : Type) := ExceptT Failure (StateM Progress) α

namespace Run

def note (event : Event) : Run Unit := modify fun progress => progress.noting event

def fail {α : Type} (failure : Failure) : Run α := do
  modify fun progress => progress.failing failure
  throw failure

def attempt {α : Type} : Except Failure α → Run α
  | .ok value => pure value
  | .error failure => fail failure

def reserve (name fingerprint : String) (path : Option String) : Run Bool := do
  let (isNew, registry) ← attempt ((← get).registry.reserve name fingerprint path)
  modify fun progress => { progress with registry }
  if isNew then note (.reserved name)
  return isNew

def store (model : Model) : Run Unit := do
  let registry ← attempt ((← get).registry.store model)
  modify fun progress => { progress with registry }
  note (.stored model)

def freeze : Run (List (String × Model)) := do attempt (← get).registry.freeze

def resolve (definitions : Definitions) (schema : Json) (path : Option String) : Run Reference := do
  let reference ← attempt (definitions.resolve schema path)
  note (.followed reference.chain)
  return reference

/-- The messages of the definitions that lead to no schema. -/
def validate (definitions : Definitions) : Run (List String) := do
  let messages ← (← attempt definitions.outcomes).mapM fun
    | .ok reference => do
      note (.followed reference.chain)
      return none
    | .error (.problem problem) => do
      note (.raised problem)
      return some problem.message
    | .error failure => throw failure
  return messages.filterMap id

section Steps

variable {α β : Type} {progress after : Progress} {failure : Failure}

theorem run_bind_of_ok {first : Run α} {value : α} (ok : first.run progress = (.ok value, after))
    (next : α → Run β) : (first >>= next).run progress = (next value).run after := by
  change (fun result : Except Failure α × Progress => ExceptT.bindCont next result.1 result.2)
    (first.run progress) = _
  rw [ok]
  rfl

theorem run_bind_of_error {first : Run α} (failed : first.run progress = (.error failure, after))
    (next : α → Run β) : (first >>= next).run progress = (.error failure, after) := by
  change (fun result : Except Failure α × Progress => ExceptT.bindCont next result.1 result.2)
    (first.run progress) = _
  rw [failed]
  rfl

theorem run_bind_congr {first other : Run α} (same : first.run progress = other.run progress)
    (next : α → Run β) : (first >>= next).run progress = (other >>= next).run progress := by
  change (fun result : Except Failure α × Progress => ExceptT.bindCont next result.1 result.2)
    (first.run progress) = _
  rw [same]
  rfl

theorem run_tryCatch_of_ok {first : Run α} {value : α}
    (ok : first.run progress = (.ok value, after)) (handle : Failure → Run α) :
    (tryCatch first handle).run progress = (.ok value, after) := by
  simp only [tryCatch, tryCatchThe, MonadExceptOf.tryCatch, ExceptT.tryCatch]
  simp only [ExceptT.run, ExceptT.mk, bind, StateT.bind] at *
  rw [ok]
  rfl

theorem run_tryCatch_of_error {first : Run α} (failed : first.run progress = (.error failure, after))
    (handle : Failure → Run α) :
    (tryCatch first handle).run progress = (handle failure).run after := by
  simp only [tryCatch, tryCatchThe, MonadExceptOf.tryCatch, ExceptT.tryCatch]
  simp only [ExceptT.run, ExceptT.mk, bind, StateT.bind] at *
  rw [failed]

theorem run_note (event : Event) : (note event).run progress = (.ok (), progress.noting event) := rfl

theorem run_fail : (fail failure : Run α).run progress = (.error failure, progress.failing failure) :=
  rfl

theorem run_get : (get : Run Progress).run progress = (.ok progress, progress) := rfl

theorem run_attempt_of_ok {outcome : Except Failure α} {value : α} (ok : outcome = .ok value) :
    (attempt outcome).run progress = (.ok value, progress) := by
  rw [ok]
  rfl

theorem run_attempt_of_error {outcome : Except Failure α} (failed : outcome = .error failure) :
    (attempt outcome).run progress = (.error failure, progress.failing failure) := by
  rw [failed]
  rfl

variable {name fingerprint : String} {path : Option String} {registry : Registry} {model : Model}

theorem run_reserve_new
    (claimed : progress.registry.reserve name fingerprint path = .ok (true, registry)) :
    (reserve name fingerprint path).run progress =
      (.ok true, { progress with registry }.noting (.reserved name)) := by
  unfold reserve
  refine (run_bind_of_ok run_get _).trans ?_
  exact run_bind_of_ok (run_attempt_of_ok claimed) _

theorem run_reserve_known
    (known : progress.registry.reserve name fingerprint path = .ok (false, registry)) :
    (reserve name fingerprint path).run progress = (.ok false, { progress with registry }) := by
  unfold reserve
  refine (run_bind_of_ok run_get _).trans ?_
  exact run_bind_of_ok (run_attempt_of_ok known) _

theorem run_reserve_error
    (refused : progress.registry.reserve name fingerprint path = .error failure) :
    (reserve name fingerprint path).run progress = (.error failure, progress.failing failure) := by
  unfold reserve
  refine (run_bind_of_ok run_get _).trans ?_
  exact run_bind_of_error (run_attempt_of_error refused) _

theorem run_store_ok (kept : progress.registry.store model = .ok registry) :
    (store model).run progress = (.ok (), { progress with registry }.noting (.stored model)) := by
  unfold store
  refine (run_bind_of_ok run_get _).trans ?_
  exact run_bind_of_ok (run_attempt_of_ok kept) _

theorem run_store_error (refused : progress.registry.store model = .error failure) :
    (store model).run progress = (.error failure, progress.failing failure) := by
  unfold store
  refine (run_bind_of_ok run_get _).trans ?_
  exact run_bind_of_error (run_attempt_of_error refused) _

theorem run_freeze : freeze.run progress = (attempt progress.registry.freeze).run progress := rfl

end Steps

end Run

end SchemaCatalog
