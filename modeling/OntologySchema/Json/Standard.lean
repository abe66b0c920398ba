import OntologySchema.Json.Library
import OntologySchema.Json.Parser
import OntologySchema.Json.Printer

/-!
# The library for JSON that is used

Records and tables are both objects; a text is the indented one.
-/

namespace OntologySchema

instance : Json.Library Json where
  null := .null
  text := .text
  list := .list
  record := .object
  table := .object
  isNull := Json.isNull
  text? := Json.text?
  items? := Json.items?
  fields? := Json.fields?
  entries? := Json.members?
  print? j := some j.pretty
  parse? := Json.parse?

end OntologySchema
