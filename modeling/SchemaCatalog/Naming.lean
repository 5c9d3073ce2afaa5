import SchemaCatalog.Failure
import SchemaCatalog.Settings

/-! The names of models and properties. A model takes its base name from its own override, else from the
definition it was reached through, else from its parent and the property that declares it, with its
position where several schemas stand side by side. A property takes its override as it is, else its
key in camel case.
-/
namespace SchemaCatalog.Settings

/-- The name a schema gives itself: a text that is not empty. -/
def override? (settings : Settings) (schema : Json) : Except Failure (Option String) := do
  match ← Failure.ofMisuse (schema.member? settings.overrideKey) with
  | some (.str text) => return if text.isEmpty then none else some text
  | _ => return none

def givenBase? (settings : Settings) (schema : Json) (reference : Option String) :
    Except Failure (Option String) := do
  return ((← settings.override? schema) <|> reference).map Casing.capitalize

def rootBase (settings : Settings) (schema : Json) (reference : Option String) :
    Except Failure String := do
  return (← settings.givenBase? schema reference).getD settings.rootName

def pathBase (parent key : String) (position : Option Int) : String :=
  parent ++ Casing.capitalize key ++
    match position with
    | some position => "Item" ++ toString position
    | none => ""

def nestedBase (settings : Settings) (schema : Json) (reference : Option String)
    (parent key : String) (position : Option Int) : Except Failure String := do
  return (← settings.givenBase? schema reference).getD (pathBase parent key position)

def propertyName (settings : Settings) (key : String) (schema : Json) : Except Failure String := do
  return (← settings.override? schema).getD (Casing.camelize key)

end SchemaCatalog.Settings
