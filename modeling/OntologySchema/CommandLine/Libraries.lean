import OntologySchema.CommandLine.Invocation
import OntologySchema.Document.Basic
import OntologySchema.Json.Library

/-!
# Libraries

What a run takes from libraries: how arguments, settings files and documents are read, and JSON.
-/

namespace OntologySchema

/-- The libraries of a run. -/
structure Libraries where
  invocation : List String → Except Exit Invocation
  /-- The settings in the text of a settings file that is not blank. -/
  settings? : String → Option Settings
  document? : String → Option Document
  /-- The values of JSON. -/
  J : Type
  json : Json.Library J

attribute [instance] Libraries.json

end OntologySchema
