import OntologySchema.Schema.Basic
import OntologySchema.Text.Blank

/-!
# Settings

What a run can be told: the root class, the file whose content is the header of the schema, how fields are
numbered, how much of the ontology the schema repeats, and where results go. Each may be left open. The
flags of a command are settings, and so is a settings file; `orElse` lets the former win. How the text of such a
file is read is left open.
-/

namespace OntologySchema

/-- The settings of a run. -/
structure Settings where
  root? : Option String := none
  headerPath? : Option String := none
  hashedNumbers? : Option Bool := none
  semantic? : Option Bool := none
  schemaPath? : Option String := none
  diagramPath? : Option String := none
  deriving DecidableEq, Repr

namespace Settings

/-! ### Values in force -/

/-- The settings of `s`, and those of `t` where `s` leaves something open. -/
def orElse (s t : Settings) : Settings where
  root? := s.root? <|> t.root?
  headerPath? := s.headerPath? <|> t.headerPath?
  hashedNumbers? := s.hashedNumbers? <|> t.hashedNumbers?
  semantic? := s.semantic? <|> t.semantic?
  schemaPath? := s.schemaPath? <|> t.schemaPath?
  diagramPath? := s.diagramPath? <|> t.diagramPath?

/-- The root class; an empty text names none. -/
def rootClass? (s : Settings) : Option String := s.root?.filter (!·.isEmpty)

/-- Where the schema goes. -/
def schemaPath (s : Settings) : String := s.schemaPath?.getD "api/ontology.proto"

/-- Where the diagram goes. -/
def diagramPath (s : Settings) : String := s.diagramPath?.getD "api/ontology.puml"

/-- The options of the schema, given the content of the header file if there is one. -/
def schemaOptions (s : Settings) (header? : Option String) : SchemaOptions :=
  let usual : SchemaOptions := {}
  { hashedNumbers := s.hashedNumbers?.getD usual.hashedNumbers
    semantic := s.semantic?.getD usual.semantic
    header := header?.getD usual.header }

/-! ### Settings files -/

/-- The settings in the text of a settings file, where `read?` reads those in a text that is not blank. A blank
text leaves everything open. -/
def ofText? (read? : String → Option Settings) (text : String) : Option Settings :=
  if text.toList.all Text.isBlank then some {} else read? text

end Settings

end OntologySchema
