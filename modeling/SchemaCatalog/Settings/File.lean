import SchemaCatalog.Path
import SchemaCatalog.Settings
import SchemaCatalog.Yaml.Content

/-! Settings from a file in YAML. An empty file stands for the defaults; any other has to hold a mapping
whose keys are fields and whose values are texts that a setting may have.
-/
namespace SchemaCatalog.Settings

/-- A text, or bytes that are the text of one. -/
def textOf? : Yaml.Shape → Option String
  | .text value | .bytes value => value
  | _ => none

def keyOf? : Yaml.Shape → Option String
  | .text value => value
  | _ => none

/-- The settings of a mapping, all of whose keys are texts. A value that is none is as bad as null. -/
def ofMapping? (entries : List (Yaml.Shape × Yaml.Shape)) : Option Settings := do
  let fields ← entries.mapM fun (key, value) => do
    return (Json.str (← keyOf? key), Json.ofText? (textOf? value))
  (check (fields.foldl (fun known (key, value) => setEntry key value known) [])).toOption

/-- The settings in a text, which messages name by its path. -/
def ofText (path text : String) : Except Failure Settings :=
  match Yaml.Content.ofText text with
  | .error .malformed => .error (.located .settingsUnreadable (some path))
  | .error (.refused misuse) => .error (.misuse misuse)
  | .ok content =>
    match content.shape with
    | .null => .ok {}
    | .mapping =>
      match ofMapping? content.entries with
      | some settings => .ok settings
      | none => .error (.located .settingsInvalid (some path))
    | shape =>
      .error (.detailed .settingsNotMapping (some path) ("top-level value was " ++ shape.name))

inductive Stored
  | nothing
  | directory
  | file (text : String)

def ofFile (path : String) (stored : Stored) : Except Failure Settings :=
  match stored with
  | .nothing => .error (.fileMissing (Path.normalized path))
  | .directory => .error (.misuse .directory)
  | .file text => ofText (Path.normalized path) text

end SchemaCatalog.Settings
