/-!
# References to entities

A document names an entity by its absolute IRI, by an abbreviated IRI `short:suffix`, or by both. An
empty text stands for a form that is not there.

The top class, to which every class belongs, has three spellings.
-/

namespace OntologySchema

/-- The forms in which a document names an entity. -/
structure Reference where
  iri : Option String := none
  abbreviated : Option String := none
  deriving DecidableEq, Repr, Inhabited

/-- A text, unless it is empty. -/
def nonempty? (s : Option String) : Option String := s.filter (fun t => t ≠ "")

namespace Reference

/-- The reference without its empty forms. -/
def present (r : Reference) : Reference := ⟨nonempty? r.iri, nonempty? r.abbreviated⟩

/-- The reference as the document writes it, preferably the absolute form. -/
def identifier? (r : Reference) : Option String := r.iri <|> r.abbreviated

end Reference

/-- The absolute IRI of the top class. -/
def topClass : String := "http://www.w3.org/2002/07/owl#Thing"

/-- The abbreviated IRI of the top class. -/
def topClassAbbreviated : String := "owl:Thing"

/-- Whether a text is one of the spellings of the top class. -/
def isTopClass (s : String) : Bool := s = topClass || s = topClassAbbreviated || s = "owl.Thing"

end OntologySchema
