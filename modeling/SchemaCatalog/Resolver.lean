import SchemaCatalog.Naming
import SchemaCatalog.Script
import SchemaCatalog.Schema.Inference

/-! From a schema document to its models. Every object schema with declared properties becomes a model;
the models it depends on are registered before its own properties are complete. The functions on
properties and elements are walks over their own part of the document: they write down at which
sites models are found there, and only `register` goes on to build those.
-/
namespace SchemaCatalog

structure Resolver where
  document : Json
  settings : Settings
deriving Repr

/-- What a schema turned out to be: the schema behind its references, its tag, and whether it is an
object with properties of its own. -/
structure Finding where
  reference : Reference
  inferred : Inferred
  hasModel : Bool
deriving Repr

/-- The names a list may hold, and whether it may hold null. -/
structure Elements where
  names : List String := []
  nullable : Bool := false
deriving DecidableEq, Repr

def Elements.append (first second : Elements) : Elements :=
  ⟨first.names ++ second.names, first.nullable || second.nullable⟩

namespace Resolver

def ofDocument (document : Json) (settings : Settings) : Except Failure Resolver :=
  match document with
  | .obj members => .ok ⟨.obj members, settings⟩
  | other => .error (.detailed .documentNotObject (some "#") ("document was " ++ other.kindName))

def definitions (resolver : Resolver) : Definitions :=
  match resolver.document with
  | .obj members => Definitions.ofJson ((members.lookup "definitions").getD .null)
  | _ => .table []

def hasModel (tag : Tag) (schema : Json) (path : String) : Except Failure Bool :=
  if tag = .object then declaresProperties schema (some path) else .ok false

def findingOf (reference : Reference) (path : String) : Except Failure Finding := do
  let inferred ← Inferred.ofSchema reference.schema false (some path)
  return ⟨reference, inferred, ← hasModel inferred.tag reference.schema path⟩

def inspect (resolver : Resolver) (schema : Json) (path : String) : Script Finding := do
  let reference ← Script.attempt (resolver.definitions.resolve schema (some path))
  Script.note (.followed reference.chain)
  Script.attempt (findingOf reference path)

/-- Visits a schema found below a parent, if it has a model, and returns that model's name. -/
def ownModel (resolver : Resolver) (finding : Finding) (parent key : String)
    (position : Option Int) (path : String) : Script (Option String) := do
  if finding.hasModel then
    let base ← Script.attempt (resolver.settings.nestedBase finding.reference.schema
      finding.reference.name? parent key position)
    Script.visit ⟨finding.reference.schema, base, path⟩
    return some (resolver.settings.modelName base)
  else return none

/-- One schema for all elements. Only a model has a name worth listing. -/
def uniform (resolver : Resolver) (parent key path : String) (schema : Json) :
    Script Elements := do
  let finding ← resolver.inspect schema path
  return ⟨(← resolver.ownModel finding parent key none path).toList, false⟩

/-- A list of type names stands for a union of them; a single one needs no listing. -/
def shorthand (path : String) (names : List Json) : Except Failure Elements := do
  let kinds ← names.mapM (Inferred.kindOf (some path))
  let nullable := kinds.contains .null
  let remaining := (kinds.filter (· ≠ .null)).eraseDups
  if remaining.length ≤ 1 then return ⟨[], nullable⟩
  else
    let inferred ← remaining.mapM fun kind => Inferred.ofKind kind false (.obj [])
    return ⟨inferred.map (·.tag.name), nullable⟩

/-- A text among several schemas is short for a schema of that type. -/
def spelledOut : Json → Json
  | .str name => .obj [("type", .str name)]
  | schema => schema

/-- A schema that is null and no reference. -/
def isNull (members : List (String × Json)) : Bool :=
  !members.any (·.1 == "$ref") && (members.lookup "type").bind Json.text? == some "null"

/-- What one of several schemas adds: its model, or its tag where that is a scalar. Objects without a
model and lists within lists add nothing. -/
def namesOf (tag : Tag) (modelName : Option String) : List String :=
  match modelName, tag with
  | some name, _ => [name]
  | none, .object | none, .array => []
  | none, tag => [tag.name]

/-- One of several schemas for elements, at its position. -/
def alternative (resolver : Resolver) (parent key path : String) (position : Nat)
    (entry : Json) : Script Elements :=
  let path := path ++ "/" ++ toString position
  match spelledOut entry with
  | .obj members =>
    if isNull members then return ⟨[], true⟩
    else do
      let finding ← resolver.inspect (.obj members) path
      let modelName ← resolver.ownModel finding parent key (some (position + 1)) path
      return ⟨namesOf finding.inferred.tag modelName, false⟩
  | _ => Script.fail (.located .itemNotSchema (some path))

def alternatives (resolver : Resolver) (parent key path : String) :
    Nat → List Json → Script Elements
  | _, [] => return {}
  | position, entry :: rest => do
    let first ← resolver.alternative parent key path position entry
    return first.append (← resolver.alternatives parent key path (position + 1) rest)

def elementsOf (resolver : Resolver) (parent key path : String) : Json → Script Elements
  | .null => return {}
  | .obj members =>
    match members.lookup "anyOf" with
    | some (.arr entries) => resolver.alternatives parent key (path ++ "/anyOf") 0 entries
    | some _ => Script.fail (.located .alternativesNotList (some (path ++ "/anyOf")))
    | none => resolver.uniform parent key path (.obj members)
  | .arr entries =>
    if entries.all (·.text?.isSome) then Script.attempt (shorthand path entries)
    else resolver.alternatives parent key path 0 entries
  | other =>
    Script.fail (.detailed .itemsMalformed (some path) ("items value was " ++ other.quoted))

def elements (resolver : Resolver) (parent key path : String) (list : Json) :
    Script Elements := do
  let items ← Script.attempt (Failure.ofMisuse (list.member? "items"))
  resolver.elementsOf parent key (path ++ "/items") (items.getD .null)

/-- What a schema below a parent may hold, which is nothing unless it is a list. -/
def held (resolver : Resolver) (finding : Finding) (parent key path : String) : Script Elements :=
  if finding.inferred.tag = .array then
    resolver.elements parent key path finding.reference.schema
  else pure {}

/-- The first of a property's own description and that of the schema behind it. -/
def descriptionOf (entry schema : Json) : Except Misuse (Option String) := do
  let own ← entry.member? "description"
  let inherited ← schema.member? "description"
  return own.bind Json.text? <|> inherited.bind Json.text?

/-- A property, once it is known what its value may hold. -/
def described (settings : Settings) (key : String) (entry : Json) (isRequired : Bool)
    (finding : Finding) (modelName : Option String) (elements : Elements) :
    Except Failure Property := do
  let name ← settings.propertyName key entry
  let description ← Failure.ofMisuse (descriptionOf entry finding.reference.schema)
  if named : name ≠ "" then
    return {
      name, named, description, modelName
      tag := finding.inferred.tag
      optional := finding.inferred.optional || !isRequired || elements.nullable
      elementTypes := elements.names
      hasProperties := modelName.isSome }
  else .error (.nameless .property)

def property (resolver : Resolver) (site : Site) (required : List Json) (key : String)
    (entry : Json) : Script Property :=
  let path := site.path ++ "/properties/" ++ key
  if entry.isObject then do
    let finding ← resolver.inspect entry path
    let modelName ← resolver.ownModel finding site.base key none path
    let elements ← resolver.held finding site.base key path
    let isRequired := required.any (·.text? == some key)
    Script.attempt (described resolver.settings key entry isRequired finding modelName elements)
  else Script.fail (.located .propertyNotObject (some path))

/-- The entries of `required`, none if it is empty in any way. -/
def requiredOf (site : Site) : Except Failure (List Json) := do
  match (← Failure.ofMisuse (site.schema.member? "required")).getD .null with
  | .arr names => return names
  | other => if other.isEmpty then return [] else .error (.located .requiredNotList (some site.path))

/-- The declared properties, which have to be there. -/
def propertiesOf (schema : Json) : Except Misuse (List (String × Json)) := do
  match ← schema.entry "properties" with
  | .obj members => return members
  | _ => .error .memberless

def model (resolver : Resolver) (site : Site) : Script Model := do
  let required ← Script.attempt (requiredOf site)
  let entries ← Script.attempt (Failure.ofMisuse (propertiesOf site.schema))
  let properties ← entries.mapM fun (key, entry) => resolver.property site required key entry
  Script.attempt (Model.ofProperties (resolver.settings.modelName site.base) properties)

/-- Claims the name of a schema and, if it is new, builds its model inside the enclosing ones. -/
def register (resolver : Resolver) : Nat → List String → Site → Run Unit
  | 0, _, _ => Run.fail .exhausted
  | budget + 1, enclosing, site => do
    let name := resolver.settings.modelName site.base
    Run.note (.reached site enclosing)
    if ← Run.reserve name site.schema.fingerprint (some site.path) then
      Run.store (← (resolver.model site).play (resolver.register budget (name :: enclosing)))

/-- A bound on how deep models can be nested in one another. Each model under construction has a name
of its own, made from names in the document by steps through its schemas. -/
def budget (resolver : Resolver) : Nat := (resolver.document.weight + 2) ^ 3

/-- Builds the model of one schema without registering it. -/
def build (resolver : Resolver) (site : Site) : Run Model :=
  (resolver.model site).play
    (resolver.register ((resolver.document.weight + site.schema.weight + 2) ^ 3) [])

/-- Visits the root, or the models of its elements if it is a list. -/
def root (resolver : Resolver) : Script Unit := do
  let finding ← resolver.inspect resolver.document "#"
  let schema := finding.reference.schema
  let base ← Script.attempt (resolver.settings.rootBase schema finding.reference.name?)
  if finding.hasModel then Script.visit ⟨schema, base, "#"⟩
  else if finding.inferred.tag = .array then discard (resolver.elements base "" "#" schema)
  else Script.note (.rootless finding.inferred.tag)

/-- All models of the document by name, on a registry of their own, nested no deeper than a bound. -/
def resolveWithin (resolver : Resolver) (budget : Nat) : Run (List (String × Model)) := do
  modify fun progress => { progress with registry := {} }
  Run.note (.started resolver.settings)
  let models ← tryCatch (do resolver.root.play (resolver.register budget []); Run.freeze)
    fun failure => do
      if let .problem problem := failure then Run.note (.abandoned problem)
      throw failure
  Run.note (.finished models.length)
  return models

def resolve (resolver : Resolver) : Run (List (String × Model)) :=
  resolver.resolveWithin resolver.budget

/-- The models of a document by name, or what is wrong with it. -/
def models (document : Json) (settings : Settings) : Except Failure (List (String × Model)) := do
  let resolver ← ofDocument document settings
  (resolver.resolve.run {}).1

end Resolver

end SchemaCatalog
