import OntologySchema.CommandLine.Arguments
import OntologySchema.CommandLine.Libraries
import OntologySchema.Document.OfXml
import OntologySchema.Json.Standard
import OntologySchema.Settings.OfYaml

/-!
# The libraries that are used

Settings files are read as YAML, and documents as XML.
-/

namespace OntologySchema

/-- The libraries that are used. -/
def Libraries.standard : Libraries where
  invocation arguments := (Invocation.ofArguments arguments).mapError Halt.exit
  settings? := Settings.readYaml?
  document? := Document.ofXml?
  J := Json
  json := inferInstance

end OntologySchema
