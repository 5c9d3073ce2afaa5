import Mathlib.Data.List.Induction
import Mathlib.Data.List.TakeWhile
import SchemaCatalog.Proofs.Registry
import SchemaCatalog.Run

/-! Calls to a registry, one after the other, of which any may fail. Everything a registry tells can be
read off the calls before: a name is held for the structure it was first claimed for, and its model is
the first one of that name to be stored from then on. Main statement: so is the answer to every call,
and a call that fails changes nothing.
-/
namespace SchemaCatalog

namespace Registry

inductive Call
  | reserve (name fingerprint : String) (path : Option String)
  | store (model : Model)
  | model? (name : String)
  | contains (name : String)
  /-- all names, at once or one by one -/
  | names
  | size
  | freeze

inductive Reply
  | flag (value : Bool)
  | done
  | model (found : Option Model)
  | names (names : List String)
  | size (size : Nat)
  | models (models : List (String × Model))

def Call.reply : Call → Run Reply
  | reserve name fingerprint path => do return .flag (← Run.reserve name fingerprint path)
  | store model => do
    Run.store model
    return .done
  | model? name => do return .model ((← get).registry.model? name)
  | contains name => do return .flag ((← get).registry.contains name)
  | names => do return .names (← get).registry.names
  | size => do return .size (← get).registry.size
  | freeze => do return .models (← Run.freeze)

/-- What a registry replies to a call and what it is afterwards, if the call succeeds. -/
def Call.outcome (registry : Registry) : Call → Except Failure (Reply × Registry)
  | reserve name fingerprint path =>
    (registry.reserve name fingerprint path).map fun (isNew, next) => (.flag isNew, next)
  | store model => (registry.store model).map fun next => (.done, next)
  | model? name => .ok (.model (registry.model? name), registry)
  | contains name => .ok (.flag (registry.contains name), registry)
  | names => .ok (.names registry.names, registry)
  | size => .ok (.size registry.size, registry)
  | freeze => registry.freeze.map fun models => (.models models, registry)

/-- What calls on a new registry come to, whichever of them fail. -/
def progressAfter (calls : List Call) : Progress :=
  calls.foldl (fun progress call => (call.reply.run progress).2) {}

def after (calls : List Call) : Registry := (progressAfter calls).registry

def answer (calls : List Call) (call : Call) : Except Failure Reply :=
  (call.reply.run (progressAfter calls)).1

/-! What the calls themselves tell. -/

def Call.claim? : Call → Option (String × String)
  | reserve name fingerprint _ => some (name, fingerprint)
  | _ => none

def Call.claims (name : String) (call : Call) : Bool := call.claim?.any (·.1 == name)

def Call.stored? (name : String) : Call → Option Model
  | store model => if model.name = name then some model else none
  | _ => none

def claimedNames (calls : List Call) : List String :=
  ((calls.filterMap Call.claim?).map (·.1)).eraseDups

/-- The structure that a name was first claimed for. -/
def firstClaim? (calls : List Call) (name : String) : Option String :=
  (calls.filterMap Call.claim?).lookup name

/-- The first model of a name that is stored once the name is claimed. -/
def firstModel? (calls : List Call) (name : String) : Option Model :=
  (calls.dropWhile fun call => !call.claims name).findSome? (Call.stored? name)

section History

variable {calls : List Call} {call : Call} {name : String} {model : Model}

theorem mem_claimedNames : name ∈ claimedNames calls ↔ ∃ call ∈ calls, call.claims name = true := by
  simp only [claimedNames, Call.claims, List.mem_eraseDups, List.mem_map, List.mem_filterMap,
    Option.any_eq_true, beq_iff_eq]
  constructor
  · rintro ⟨claim, ⟨call, inside, claims⟩, named⟩
    exact ⟨call, inside, claim, claims, named⟩
  · rintro ⟨call, inside, claim, claims, named⟩
    exact ⟨claim, ⟨call, inside, claims⟩, named⟩

theorem claimedNames_reserve (calls : List Call) (name fingerprint : String) (path : Option String) :
    claimedNames (calls ++ [.reserve name fingerprint path]) =
      if name ∈ claimedNames calls then claimedNames calls else claimedNames calls ++ [name] := by
  have grown : claimedNames (calls ++ [.reserve name fingerprint path]) = claimedNames calls ++
      (List.removeAll [name] ((calls.filterMap Call.claim?).map (·.1))).eraseDups := by
    rw [claimedNames, List.filterMap_append, List.map_append, List.eraseDups_append]
    rfl
  rw [grown]
  split
  next claimed =>
    have claimed := List.mem_eraseDups.mp claimed
    rw [List.removeAll, List.filter_cons_of_neg (by simpa using claimed)]
    exact List.append_nil _
  next free =>
    have free := mt List.mem_eraseDups.mpr free
    rw [List.removeAll, List.filter_cons_of_pos (by simpa using free)]
    rfl

theorem claimedNames_other (other : call.claim? = none) :
    claimedNames (calls ++ [call]) = claimedNames calls := by
  have silent : [call].filterMap Call.claim? = [] := List.filterMap_cons_none other
  rw [claimedNames, List.filterMap_append, silent, List.append_nil, claimedNames]

theorem firstClaim?_append (calls more : List Call) (name : String) :
    firstClaim? (calls ++ more) name = (firstClaim? calls name).or (firstClaim? more name) := by
  rw [firstClaim?, List.filterMap_append, List.lookup_append, firstClaim?, firstClaim?]

/-- Where a name is claimed, all later calls count for its model. -/
theorem firstModel?_append (claimed : name ∈ claimedNames calls) (more : List Call) :
    firstModel? (calls ++ more) name =
      (firstModel? calls name).or (more.findSome? (Call.stored? name)) := by
  obtain ⟨call, inside, claims⟩ := mem_claimedNames.mp claimed
  have begun : (calls.dropWhile fun call => !call.claims name).isEmpty = false := by
    rw [List.isEmpty_eq_false_iff]
    intro none
    have unclaimed := List.dropWhile_eq_nil_iff.mp none call inside
    rw [claims] at unclaimed
    cases unclaimed
  rw [firstModel?, List.dropWhile_append, begun, if_neg Bool.false_ne_true, List.findSome?_append,
    firstModel?]

/-- Before a name is claimed, no call counts for its model. -/
theorem uncounted (free : name ∉ claimedNames calls) :
    calls.dropWhile (fun call => !call.claims name) = [] := by
  refine List.dropWhile_eq_nil_iff.mpr fun call inside => ?_
  rw [Bool.not_eq_true', Bool.eq_false_iff]
  exact fun claims => free (mem_claimedNames.mpr ⟨call, inside, claims⟩)

theorem firstModel?_unclaimed (free : name ∉ claimedNames calls) : firstModel? calls name = none := by
  rw [firstModel?, uncounted free]
  rfl

theorem firstModel?_snoc (calls : List Call) (call : Call) (name : String) :
    firstModel? (calls ++ [call]) name =
      (firstModel? calls name).or (if name ∈ claimedNames calls then call.stored? name else none) := by
  by_cases claimed : name ∈ claimedNames calls
  · rw [firstModel?_append claimed, List.findSome?_singleton, if_pos claimed]
  · rw [firstModel?_unclaimed claimed, if_neg claimed, Option.or_none, firstModel?,
      List.dropWhile_append, uncounted claimed, List.isEmpty_nil, if_pos rfl]
    -- a claim stores nothing, and any other call does not count yet
    cases call with
    | reserve other fingerprint path =>
      refine List.findSome?_eq_none_iff.mpr fun call inside => ?_
      cases List.mem_singleton.mp (List.dropWhile_subset _ inside)
      rfl
    | _ => rfl

theorem name_of_firstModel? (found : firstModel? calls name = some model) : model.name = name := by
  obtain ⟨call, -, stored⟩ := List.exists_of_findSome?_eq_some found
  cases call with
  | store other =>
    rw [Call.stored?] at stored
    split at stored
    next named =>
      cases stored
      exact named
    next => cases stored
  | _ => cases stored

theorem firstModel?_later (found : firstModel? calls name = some model) (more : List Call) :
    firstModel? (calls ++ more) name = some model := by
  have claimed : name ∈ claimedNames calls := by
    by_contra free
    rw [firstModel?_unclaimed free] at found
    cases found
  rw [firstModel?_append claimed, found, Option.some_or]

end History

/-- The names that are claimed and have no model yet. -/
def unbuiltNames (calls : List Call) : List String :=
  (claimedNames calls).filter fun name => (firstModel? calls name).isNone

def builtModels (calls : List Call) : List (String × Model) :=
  (claimedNames calls).filterMap fun name => (firstModel? calls name).map (name, ·)

section Slots

variable {registry next : Registry} {name fingerprint : String} {path : Option String} {model : Model}

theorem slot?_reserve_new (reserved : registry.reserve name fingerprint path = .ok (true, next))
    (other : String) :
    next.slot? other =
      (registry.slot? other).or (if name = other then some ⟨name, fingerprint, none⟩ else none) := by
  rw [(reserve_new reserved).2, slot?, List.find?_append, slot?, List.find?_singleton]
  simp

theorem slot?_store (stored : registry.store model = .ok next) (name : String) :
    next.slot? name = (registry.slot? name).map fun slot =>
      if slot.name = model.name then { slot with model := some model } else slot := by
  have kept : (fun slot : Slot => slot.name == name) ∘ (fun slot : Slot =>
      if slot.name = model.name then { slot with model := some model } else slot) =
        fun slot => slot.name == name := by
    funext slot
    simp only [Function.comp_apply]
    split <;> rfl
  rw [(store_ok stored).2, slot?, List.find?_map, kept, slot?]

theorem name_of_slot? {slot : Slot} (found : registry.slot? name = some slot) : slot.name = name := by
  simpa using List.find?_some found

end Slots

structure Recorded (calls : List Call) (registry : Registry) : Prop where
  distinct : registry.names.Nodup
  names : registry.names = claimedNames calls
  fingerprint : ∀ name, (registry.slot? name).map (·.fingerprint) = firstClaim? calls name
  model : ∀ name, registry.model? name = firstModel? calls name

namespace Recorded

variable {calls : List Call} {registry next : Registry} {name fingerprint : String}
  {path : Option String} {model : Model}

theorem empty : Recorded [] {} := ⟨List.nodup_nil, rfl, fun _ => rfl, fun _ => rfl⟩

/-- A call that makes no claim and stores no model tells nothing new. -/
theorem ask (recorded : Recorded calls registry) {call : Call} (claimless : call.claim? = none)
    (storeless : ∀ name, call.stored? name = none) : Recorded (calls ++ [call]) registry where
  distinct := recorded.distinct
  names := recorded.names.trans (claimedNames_other claimless).symm
  fingerprint name := by
    have silent : firstClaim? [call] name = none := by
      rw [firstClaim?, List.filterMap_cons_none claimless]
      rfl
    rw [firstClaim?_append, silent, Option.or_none, recorded.fingerprint]
  model name := by
    rw [firstModel?_snoc, storeless, ite_self, Option.or_none, recorded.model]

theorem firstClaim?_reserve (other : String) :
    firstClaim? [.reserve name fingerprint path] other =
      if name = other then some fingerprint else none := by
  rw [firstClaim?, List.filterMap_cons_some (by rfl), List.filterMap_nil, List.lookup_cons]
  by_cases same : name = other
  · rw [if_pos same, same, beq_self_eq_true]
  · rw [if_neg same, beq_false_of_ne (Ne.symm same)]
    rfl

theorem reserve_new (recorded : Recorded calls registry)
    (reserved : registry.reserve name fingerprint path = .ok (true, next)) :
    Recorded (calls ++ [.reserve name fingerprint path]) next := by
  have free := (Registry.reserve_new reserved).1
  constructor
  · exact nodup_reserve_new reserved recorded.distinct
  · rw [names_reserve_new reserved, claimedNames_reserve, ← recorded.names, if_neg free]
  · intro other
    rw [slot?_reserve_new reserved, firstClaim?_append, firstClaim?_reserve, ← recorded.fingerprint]
    cases registry.slot? other with
    | some slot => rfl
    | none => split <;> rfl
  · intro other
    have stored : (Call.reserve name fingerprint path).stored? other = none := rfl
    rw [firstModel?_snoc, stored, ite_self, Option.or_none, ← recorded.model, model?, model?,
      slot?_reserve_new reserved]
    cases registry.slot? other with
    | some slot => rfl
    | none => split <;> rfl

theorem reserve_held (recorded : Recorded calls registry) (held : name ∈ registry.names) :
    Recorded (calls ++ [.reserve name fingerprint path]) registry := by
  constructor
  · exact recorded.distinct
  · rw [claimedNames_reserve, ← recorded.names, if_pos held]
  · intro other
    rw [firstClaim?_append, firstClaim?_reserve, ← recorded.fingerprint]
    split
    next same =>
      subst same
      cases found : registry.slot? name with
      | some slot => rfl
      | none => exact absurd held (slot?_eq_none.mp found)
    next => rw [Option.or_none]
  · intro other
    have stored : (Call.reserve name fingerprint path).stored? other = none := rfl
    rw [firstModel?_snoc, stored, ite_self, Option.or_none, recorded.model]

theorem store (recorded : Recorded calls registry) (stored : registry.store model = .ok next) :
    Recorded (calls ++ [.store model]) next := by
  have waits := (store_ok stored).1
  constructor
  · rw [names_store stored]
    exact recorded.distinct
  · rw [names_store stored, claimedNames_other rfl, recorded.names]
  · intro name
    have silent : firstClaim? [.store model] name = none := rfl
    rw [firstClaim?_append, silent, Option.or_none, ← recorded.fingerprint, slot?_store stored,
      Option.map_map]
    refine congrArg (Option.map · _) (funext fun slot => ?_)
    simp only [Function.comp_apply]
    split <;> rfl
  · intro name
    rw [firstModel?_snoc, ← recorded.model, ← recorded.names, Call.stored?, model?,
      slot?_store stored, model?]
    by_cases same : model.name = name
    · subst same
      obtain ⟨slot, inside, unbuilt, named⟩ := mem_pending.mp waits
      have found : registry.slot? model.name = some slot :=
        named ▸ (slot?_eq_some recorded.distinct).mpr inside
      rw [found, if_pos (mem_names_of_pending waits), if_pos rfl, Option.map_some, if_pos named,
        Option.bind_some, Option.bind_some, unbuilt, Option.none_or]
    · rw [if_neg same, ite_self, Option.or_none]
      cases found : registry.slot? name with
      | none => rfl
      | some slot =>
        rw [Option.map_some, if_neg]
        exact fun other => same (other.symm.trans (name_of_slot? found))

/-- A model that is refused is none that its name waits for. -/
theorem store_refused (recorded : Recorded calls registry) {failure : Failure}
    (refused : registry.store model = .error failure) : Recorded (calls ++ [.store model]) registry := by
  constructor
  · exact recorded.distinct
  · rw [claimedNames_other rfl, recorded.names]
  · intro name
    have silent : firstClaim? [.store model] name = none := rfl
    rw [firstClaim?_append, silent, Option.or_none, recorded.fingerprint]
  · intro name
    rw [firstModel?_snoc, ← recorded.model, ← recorded.names, Call.stored?]
    split
    next claimed =>
      split
      next same =>
        subst same
        rcases model?_or_pending claimed with built | waits
        · rw [Option.or_of_isSome built]
        · cases (store_of_pending recorded.distinct waits).symm.trans refused
      next => rw [Option.or_none]
    next => rw [Option.or_none]

end Recorded

theorem run_reply (call : Call) (progress : Progress) :
    (call.reply.run progress).1 = (call.outcome progress.registry).map (·.1) ∧
      (call.reply.run progress).2.registry = match call.outcome progress.registry with
        | .ok (_, next) => next
        | .error _ => progress.registry := by
  cases call with
  | reserve name fingerprint path =>
    rw [Call.reply, Call.outcome]
    rcases made : progress.registry.reserve name fingerprint path with failure | ⟨_ | _, next⟩
    · rw [Run.run_bind_of_error (Run.run_reserve_error made)]
      exact ⟨rfl, progress.registry_failing failure⟩
    · rw [Run.run_bind_of_ok (Run.run_reserve_known made)]
      exact ⟨rfl, rfl⟩
    · rw [Run.run_bind_of_ok (Run.run_reserve_new made)]
      exact ⟨rfl, rfl⟩
  | store model =>
    rw [Call.reply, Call.outcome]
    cases made : progress.registry.store model with
    | error failure =>
      rw [Run.run_bind_of_error (Run.run_store_error made)]
      exact ⟨rfl, progress.registry_failing failure⟩
    | ok next =>
      rw [Run.run_bind_of_ok (Run.run_store_ok made)]
      exact ⟨rfl, rfl⟩
  | freeze =>
    rw [Call.reply, Call.outcome]
    cases made : progress.registry.freeze with
    | error failure =>
      rw [Run.run_bind_of_error (Run.run_freeze.trans (Run.run_attempt_of_error made))]
      exact ⟨rfl, progress.registry_failing failure⟩
    | ok models =>
      rw [Run.run_bind_of_ok (Run.run_freeze.trans (Run.run_attempt_of_ok made))]
      exact ⟨rfl, rfl⟩
  | _ => exact ⟨rfl, rfl⟩

/-- One more call, whether it fails or not, is recorded. -/
theorem Recorded.step {calls : List Call} {progress : Progress}
    (recorded : Recorded calls progress.registry) (call : Call) :
    Recorded (calls ++ [call]) (call.reply.run progress).2.registry := by
  rw [(run_reply call progress).2]
  cases call with
  | reserve name fingerprint path =>
    rw [Call.outcome]
    rcases made : progress.registry.reserve name fingerprint path with failure | ⟨_ | _, next⟩
    · obtain ⟨other, -, claimed, -⟩ := reserve_error made
      exact recorded.reserve_held (names_eq_claims _ ▸ List.mem_map_of_mem claimed)
    · obtain ⟨rfl, claimed⟩ := reserve_known made
      exact recorded.reserve_held (names_eq_claims _ ▸ List.mem_map_of_mem claimed)
    · exact recorded.reserve_new made
  | store model =>
    rw [Call.outcome]
    cases made : progress.registry.store model with
    | error failure => exact recorded.store_refused made
    | ok next => exact recorded.store made
  | freeze =>
    rw [Call.outcome]
    cases progress.registry.freeze with
    | error failure => exact recorded.ask rfl fun _ => rfl
    | ok models => exact recorded.ask rfl fun _ => rfl
  | _ => exact recorded.ask rfl fun _ => rfl

theorem progressAfter_snoc (calls : List Call) (call : Call) :
    progressAfter (calls ++ [call]) = (call.reply.run (progressAfter calls)).2 := by
  rw [progressAfter, List.foldl_append, progressAfter]
  rfl

theorem recorded_after (calls : List Call) : Recorded calls (after calls) := by
  induction calls using List.reverseRecOn with
  | nil => exact .empty
  | append_singleton calls call ih =>
    rw [after, progressAfter_snoc]
    exact ih.step call

theorem answer_eq (calls : List Call) (call : Call) :
    answer calls call = (call.outcome (after calls)).map (·.1) := (run_reply call _).1

/-- How a registry answers after some calls, as far as these tell. -/
structure Accounts (calls : List Call) : Prop where
  /-- names are listed once each, in the order of their first claims -/
  listed : (claimedNames calls).Nodup ∧ answer calls .names = .ok (.names (claimedNames calls)) ∧
    answer calls .size = .ok (.size (claimedNames calls).length) ∧
    ∀ name, answer calls (.contains name) = .ok (.flag (decide (name ∈ claimedNames calls)))
  /-- a claim is compared with the first one of its name -/
  claims : ∀ name fingerprint path, answer calls (.reserve name fingerprint path) =
    match firstClaim? calls name with
    | none => .ok (.flag true)
    | some first =>
      if first = fingerprint then .ok (.flag false)
      else .error (.detailed (.nameTaken name) path
        ("existing=" ++ first ++ " conflicting=" ++ fingerprint))
  /-- the first claim of a name is for good -/
  held : ∀ name fingerprint, firstClaim? calls name = some fingerprint →
    ∀ more, ((after (calls ++ more)).slot? name).map (·.fingerprint) = some fingerprint
  /-- a model is stored if its name is claimed and has none -/
  stores : ∀ model, answer calls (.store model) =
    if model.name ∈ claimedNames calls then
      if (firstModel? calls model.name).isSome then .error (.located (.nameTaken model.name) none)
      else .ok .done
    else .error (.located (.modelUnreserved model.name) none)
  /-- a name has the first model that is stored for it -/
  found : ∀ name, answer calls (.model? name) = .ok (.model (firstModel? calls name))
  /-- that model is for good and goes by the name -/
  built : ∀ name model, firstModel? calls name = some model →
    model.name = name ∧ ∀ more, firstModel? (calls ++ more) name = some model
  /-- a call that fails changes nothing -/
  unchanged : ∀ call failure, answer calls call = .error failure → after (calls ++ [call]) = after calls
  /-- all models are given, in the order of their names, once all are built -/
  frozen : answer calls .freeze =
    if unbuiltNames calls = [] then .ok (.models (builtModels calls))
    else .error (.located (.modelsUnbuilt (unbuiltNames calls)) none)
  complete : unbuiltNames calls = [] → (builtModels calls).map (·.1) = claimedNames calls

theorem Recorded.model?_of_mem {calls : List Call} {registry : Registry} {slot : Slot}
    (recorded : Recorded calls registry) (inside : slot ∈ registry.slots) :
    firstModel? calls slot.name = slot.model := by
  rw [← recorded.model, model?, (slot?_eq_some recorded.distinct).mpr inside, Option.bind_some]

theorem Recorded.pending {calls : List Call} {registry : Registry}
    (recorded : Recorded calls registry) : registry.pending = unbuiltNames calls := by
  rw [unbuiltNames, ← recorded.names, Registry.names, List.filter_map, Registry.pending]
  refine congrArg _ (List.filter_congr fun slot inside => ?_)
  rw [Function.comp_apply, recorded.model?_of_mem inside]

theorem Recorded.models {calls : List Call} {registry : Registry}
    (recorded : Recorded calls registry) :
    registry.slots.filterMap (fun slot => slot.model.map fun model => (slot.name, model)) =
      builtModels calls := by
  rw [builtModels, ← recorded.names, Registry.names, List.filterMap_map]
  refine List.filterMap_congr fun slot inside => ?_
  rw [Function.comp_apply, recorded.model?_of_mem inside]

theorem names_builtModels {calls : List Call} (complete : unbuiltNames calls = []) :
    (builtModels calls).map (·.1) = claimedNames calls := by
  rw [builtModels, List.map_filterMap]
  have whole : (claimedNames calls).filterMap (fun name =>
      ((firstModel? calls name).map (name, ·)).map (·.1)) = (claimedNames calls).filterMap some := by
    refine List.filterMap_congr fun name claimed => ?_
    cases built : firstModel? calls name with
    | some model => rfl
    | none =>
      have unbuilt : name ∈ unbuiltNames calls :=
        List.mem_filter.mpr ⟨claimed, Option.isNone_iff_eq_none.mpr built⟩
      rw [complete] at unbuilt
      cases unbuilt
  rw [whole, List.filterMap_some]

theorem answer_contains (calls : List Call) (name : String) :
    answer calls (.contains name) = .ok (.flag (decide (name ∈ claimedNames calls))) := by
  rw [answer_eq, ← (recorded_after calls).names]
  refine congrArg (fun flag => Except.ok (Reply.flag flag)) ?_
  rw [Bool.eq_iff_iff, decide_eq_true_iff, contains, Option.isSome_iff_ne_none, ne_eq, slot?_eq_none,
    not_not]

theorem answer_reserve (calls : List Call) (name fingerprint : String) (path : Option String) :
    answer calls (.reserve name fingerprint path) =
      match firstClaim? calls name with
      | none => .ok (.flag true)
      | some first =>
        if first = fingerprint then .ok (.flag false)
        else .error (.detailed (.nameTaken name) path
          ("existing=" ++ first ++ " conflicting=" ++ fingerprint)) := by
  rw [answer_eq, ← (recorded_after calls).fingerprint, Call.outcome, reserve]
  cases (after calls).slot? name with
  | none => rfl
  | some slot =>
    dsimp only [Option.map_some]
    split
    next => rfl
    next => rfl

theorem answer_store (calls : List Call) (model : Model) :
    answer calls (.store model) =
      if model.name ∈ claimedNames calls then
        if (firstModel? calls model.name).isSome then .error (.located (.nameTaken model.name) none)
        else .ok .done
      else .error (.located (.modelUnreserved model.name) none) := by
  have recorded := recorded_after calls
  rw [answer_eq, ← recorded.model, ← recorded.names, Call.outcome, store, model?]
  cases found : (after calls).slot? model.name with
  | none =>
    rw [if_neg (slot?_eq_none.mp found)]
    rfl
  | some slot =>
    have claimed : model.name ∈ (after calls).names := by
      by_contra free
      rw [slot?_eq_none.mpr free] at found
      cases found
    dsimp only [Option.bind_some]
    rw [if_pos claimed]
    split
    next => rfl
    next => rfl

theorem after_failed {calls : List Call} {call : Call} {failure : Failure}
    (failed : answer calls call = .error failure) : after (calls ++ [call]) = after calls := by
  rw [after, progressAfter_snoc, (run_reply call _).2]
  rw [answer_eq] at failed
  change (call.outcome (after calls)).map _ = _ at failed
  change (match call.outcome (after calls) with | .ok (_, next) => next | .error _ => after calls) = _
  cases made : call.outcome (after calls) with
  | error other => rfl
  | ok result =>
    rw [made] at failed
    cases failed

theorem answer_freeze (calls : List Call) :
    answer calls .freeze =
      if unbuiltNames calls = [] then .ok (.models (builtModels calls))
      else .error (.located (.modelsUnbuilt (unbuiltNames calls)) none) := by
  have recorded := recorded_after calls
  rw [answer_eq, Call.outcome, freeze, recorded.pending, recorded.models]
  cases unbuiltNames calls with
  | nil => rfl
  | cons name names => rfl

/-- Whatever calls were made to a registry, their order decides how it answers to the next one. -/
theorem calls_account (calls : List Call) : Accounts calls where
  listed := by
    have recorded := recorded_after calls
    refine ⟨recorded.names ▸ recorded.distinct, ?_, ?_, answer_contains calls⟩
    · rw [answer_eq, ← recorded.names]
      rfl
    · rw [answer_eq, ← recorded.names, Registry.names, List.length_map]
      rfl
  claims := answer_reserve calls
  held name fingerprint claimed more := by
    rw [(recorded_after _).fingerprint, firstClaim?_append, claimed, Option.some_or]
  stores := answer_store calls
  found name := by
    rw [answer_eq, ← (recorded_after calls).model]
    rfl
  built _ _ found := ⟨name_of_firstModel? found, firstModel?_later found⟩
  unchanged _ _ failed := after_failed failed
  frozen := answer_freeze calls
  complete := names_builtModels

end Registry

end SchemaCatalog
