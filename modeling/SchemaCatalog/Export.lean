import SchemaCatalog.Json.Writer
import SchemaCatalog.Model

/-! Handing models on: all models of a run as one JSON document, in the order of the run, and its text.
-/
namespace SchemaCatalog.Export

def payload (models : List Model) : Json := .obj [("models", .arr (models.map Model.toJson))]

def text (document : Json) : String := document.render .indented

end SchemaCatalog.Export
