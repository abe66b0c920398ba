import OntologySchema.Document.Basic
import OntologySchema.Ontology.OfDocument

/-!
# Loading an ontology

From a text to an ontology: the text is read as a document, and the ontology is built from it. Only the reading
can fail; how a text is read is left open.
-/

namespace OntologySchema

/-- Why there is no ontology. -/
inductive LoadError where
  /-- The file is not there or is not a text. -/
  | unreadable
  /-- The text is not a document. -/
  | invalidFormat
  deriving DecidableEq, Repr

/-- The document in a text; an event counts its parts. -/
def Document.loadBy (document? : String → Option Document) (text : String) : Attempt LoadError Document :=
  match document? text with
  | none => throw .invalidFormat
  | some d => do
    Attempt.tell .trace "Parsed OWL/XML document"
      [("prefixes", .number d.prefixDeclarations.length),
       ("declarations", .number d.declarations.length), ("axioms", .number d.axioms.length),
       ("annotations", .number d.annotations.length)]
    return d

/-- The ontology in a text. -/
def Ontology.loadBy (document? : String → Option Document) (root text : String) :
    Attempt LoadError Ontology := do
  let d ← Document.loadBy document? text
  ExceptT.lift (Ontology.ofDocument root d)

end OntologySchema
