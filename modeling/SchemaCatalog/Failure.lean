import SchemaCatalog.Json.Lookup

/-! What can go wrong, by cause. A `Problem` is a fault of a schema or of a settings file, with its place
and with details that are logged but never shown. A `Rejection` lists everything wrong with one piece
of data. A `Misuse` is a value of a kind nothing was prepared for. A settings file may be absent, which
is no fault of its contents. Running out of the budget of a walk
is none of these and has its own case.
-/
namespace SchemaCatalog

/-- The families of problems that a caller may want to tell apart. -/
inductive Category
  | general
  | configuration
  | resolution
  | undefinedType
  | nonArrayEnum
  | unsupportedEnum
  | missingDefinition
  | cyclicReference
  | nameCollision
deriving DecidableEq, Repr

def Category.isResolution : Category → Bool
  | general | configuration => false
  | _ => true

inductive Cause
  /-- in the words of whoever states it -/
  | stated (category : Category) (message : String)
  | typeAbsent
  | typeMalformed
  | typeUnknown (name : String)
  | enumNotList
  | enumLiteralNested
  | documentNotObject
  | propertiesNotObject
  | propertyNotObject
  | requiredNotList
  | itemsMalformed
  | alternativesNotList
  | itemNotSchema
  | definitionMissing (name : String) (available : List String)
  | definitionNotObject (name : String)
  | referenceCycle (chain : List String)
  | nameTaken (name : String)
  | modelUnreserved (name : String)
  | modelsUnbuilt (names : List String)
  | settingsUnreadable
  | settingsNotMapping
  | settingsInvalid
deriving DecidableEq, Repr

namespace Cause

def category : Cause → Category
  | stated category _ => category
  | enumNotList => .nonArrayEnum
  | enumLiteralNested => .unsupportedEnum
  | definitionMissing _ _ => .missingDefinition
  | referenceCycle _ => .cyclicReference
  | nameTaken _ => .nameCollision
  | definitionNotObject _ | modelUnreserved _ | modelsUnbuilt _ => .resolution
  | settingsUnreadable | settingsNotMapping | settingsInvalid => .configuration
  | _ => .undefinedType

def message : Cause → String
  | stated _ message => message
  | typeAbsent => "Schema node has no type, enum or $ref"
  | typeMalformed => "Schema type must be a string or an array of strings"
  | typeUnknown name => "Unknown schema type '" ++ name ++ "'"
  | enumNotList => "enum must be an array of literals"
  | enumLiteralNested => "enum literals must be strings, numbers, booleans or null"
  | documentNotObject => "Schema document must be an object"
  | propertiesNotObject => "properties must be an object mapping names to schemas"
  | propertyNotObject => "Property schema must be an object"
  | requiredNotList => "required must be an array of property names"
  | itemsMalformed => "items must be a schema or an array of schemas"
  | alternativesNotList => "anyOf must be an array of schemas"
  | itemNotSchema => "items entry must be a schema"
  | definitionMissing name available =>
    "Definition '" ++ name ++ "' not found. Available: " ++
      (if available.isEmpty then "none" else ", ".intercalate available)
  | definitionNotObject name => "Definition '" ++ name ++ "' is not a schema object"
  | referenceCycle chain => "Cyclic $ref chain: " ++ " -> ".intercalate chain
  | nameTaken name =>
    "Model name '" ++ name ++
      "' is already used by a different schema; add a name override to one of them"
  | modelUnreserved name => "Model '" ++ name ++ "' was registered without a reservation"
  | modelsUnbuilt names => "Models were reserved but never built: " ++ ", ".intercalate names
  | settingsUnreadable => "Configuration file is not valid YAML"
  | settingsNotMapping => "Configuration file must contain a mapping"
  | settingsInvalid => "Configuration values are invalid"

end Cause

/-- A cause with its place, a file for settings and a path into the document for schemas. -/
structure Problem where
  cause : Cause
  place : Option String := none
  details : Option String := none
deriving DecidableEq, Repr

namespace Problem

def category (problem : Problem) : Category := problem.cause.category

/-- The cause in words, followed by the place unless that is absent or empty. -/
def message (problem : Problem) : String :=
  match problem.place with
  | none => problem.cause.message
  | some place =>
    if place.isEmpty then problem.cause.message
    else
      problem.cause.message ++
        (if problem.category = .configuration then " (in " else " (at ") ++ place ++ ")"

end Problem

inductive Subject
  | settings
  | property
  | model
deriving DecidableEq, Repr

def Subject.title : Subject → String
  | settings => "GeneratorConfig"
  | property => "Property"
  | model => "Model"

inductive Issue
  | missing
  | unexpected
  | unexpectedKey
  | notText
  | emptyText
  | notWord
  | notTag
  | notFlag
  | unclearFlag
  | notList
  | notSet
  | notObject (subject : Subject)
  | frozen
deriving DecidableEq, Repr

namespace Issue

def code : Issue → String
  | missing => "missing"
  | unexpected => "extra_forbidden"
  | unexpectedKey => "invalid_key"
  | notText => "string_type"
  | emptyText => "string_too_short"
  | notWord => "string_pattern_mismatch"
  | notTag => "enum"
  | notFlag => "bool_type"
  | unclearFlag => "bool_parsing"
  | notList => "tuple_type"
  | notSet => "frozen_set_type"
  | notObject _ => "model_type"
  | frozen => "frozen_instance"

def message : Issue → String
  | missing => "Field required"
  | unexpected => "Extra inputs are not permitted"
  | unexpectedKey => "Keys should be strings"
  | notText => "Input should be a valid string"
  | emptyText => "String should have at least 1 character"
  | notWord => "String should match pattern '^[A-Za-z0-9_]*$'"
  | notTag =>
    "Input should be 'array', 'boolean', 'signedInt', 'unsignedInt', 'number', 'boxedNumber', " ++
      "'string', 'object' or 'dynamic'"
  | notFlag => "Input should be a valid boolean"
  | unclearFlag => "Input should be a valid boolean, unable to interpret input"
  | notList => "Input should be a valid tuple"
  | notSet => "Input should be a valid frozenset"
  | notObject subject => "Input should be a valid dictionary or instance of " ++ subject.title
  | frozen => "Instance is frozen"

end Issue

inductive Step
  | member (name : String)
  | index (position : Int)
deriving DecidableEq, Repr

structure Complaint where
  place : List Step
  issue : Issue
deriving DecidableEq, Repr

/-- Everything wrong with a piece of data, in the order of its fields. -/
structure Rejection where
  subject : Subject
  complaints : List Complaint
deriving DecidableEq, Repr

inductive Failure
  | problem (problem : Problem)
  | rejected (rejection : Rejection)
  | misuse (misuse : Misuse)
  | fileMissing (path : String)
  | exhausted
deriving DecidableEq, Repr

namespace Failure

def located (cause : Cause) (path : Option String) : Failure := .problem ⟨cause, path, none⟩

/-- A problem at a path of the document, with details for the log. -/
def detailed (cause : Cause) (path : Option String) (details : String) : Failure :=
  .problem ⟨cause, path, some details⟩

def nameless (subject : Subject) : Failure :=
  .rejected ⟨subject, [⟨[.member "name"], .emptyText⟩]⟩

def ofMisuse {α : Type} : Except Misuse α → Except Failure α
  | .ok value => .ok value
  | .error cause => .error (.misuse cause)

section Success

variable {ε α β : Type}

theorem ofMisuse_eq_ok {outcome : Except Misuse α} {value : α} :
    ofMisuse outcome = .ok value ↔ outcome = .ok value := by
  cases outcome <;> simp [ofMisuse]

theorem bind_eq_ok {first : Except ε α} {next : α → Except ε β} {result : β} :
    (first >>= next) = .ok result ↔ ∃ value, first = .ok value ∧ next value = .ok result := by
  cases first <;> simp [bind, Except.bind]

end Success

end Failure

end SchemaCatalog
