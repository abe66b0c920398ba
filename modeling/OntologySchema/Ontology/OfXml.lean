import OntologySchema.Document.OfXml
import OntologySchema.Ontology.Load

/-!
# Ontologies from XML
-/

namespace OntologySchema

/-- The document in an XML text. -/
def Document.load (text : String) : Attempt LoadError Document := loadBy ofXml? text

/-- The ontology in an XML text. -/
def Ontology.load (root text : String) : Attempt LoadError Ontology := loadBy Document.ofXml? root text

end OntologySchema
