import OntologySchema.Prefixes

/-!
# Documents

The part of an OWL document that is read: prefixes, declarations, subclass axioms and annotations, in
the order of the document. References are kept as they are written.

A subclass axiom has one of five shapes: a class and its superclass, or a class with restrictions of
one of four kinds, each of which gives the class a property.
-/

namespace OntologySchema

/-- A prefix declaration. -/
structure PrefixDeclaration where
  name : String := ""
  iri : String := ""
  deriving DecidableEq, Repr

/-- A declaration of an entity; normally one of the four is there. -/
structure Declaration where
  class? : Option Reference := none
  objectProperty? : Option Reference := none
  dataProperty? : Option Reference := none
  individual? : Option Reference := none
  deriving DecidableEq, Repr

/-- A data property whose values have a datatype. -/
structure DataSome where
  property : Reference := {}
  datatype? : Option Reference := none
  deriving DecidableEq, Repr

/-- A data property with a literal, which names the type of its values. -/
structure DataValue where
  property : Reference := {}
  literal : String := ""
  deriving DecidableEq, Repr

/-- An object property whose values are in a class. -/
structure ObjectSome where
  property : Reference := {}
  target : Reference := {}
  deriving DecidableEq, Repr

/-- An object property whose value is an individual. -/
structure ObjectValue where
  property : Reference := {}
  individual : Reference := {}
  deriving DecidableEq, Repr

/-- A subclass axiom: the classes in it and its restrictions, by kind. -/
structure SubclassAxiom where
  classes : List Reference := []
  dataSome : List DataSome := []
  dataValue : List DataValue := []
  objectSome : List ObjectSome := []
  objectValue : List ObjectValue := []
  deriving DecidableEq, Repr

/-- The shapes of a subclass axiom that have a meaning. The first class is the subject of each. -/
inductive AxiomShape where
  | subclass (subject parent : Reference)
  | dataSome (subject : Reference) (restrictions : List DataSome)
  | dataValue (subject : Reference) (restrictions : List DataValue)
  | objectSome (subject : Reference) (restrictions : List ObjectSome)
  | objectValue (subject : Reference) (restrictions : List ObjectValue)
  deriving DecidableEq, Repr

/-- The shape of an axiom. With two classes the restrictions do not count; with one class the first
kind of restriction that is there does. -/
def SubclassAxiom.shape? (a : SubclassAxiom) : Option AxiomShape :=
  match a.classes with
  | [subject, parent] => some (.subclass subject parent)
  | [subject] =>
    if !a.dataSome.isEmpty then some (.dataSome subject a.dataSome)
    else if !a.dataValue.isEmpty then some (.dataValue subject a.dataValue)
    else if !a.objectSome.isEmpty then some (.objectSome subject a.objectSome)
    else if !a.objectValue.isEmpty then some (.objectValue subject a.objectValue)
    else none
  | _ => none

/-- What an annotation says of its subject. -/
inductive AnnotationKind where
  | label | comment | seeAlso | other
  deriving DecidableEq, Repr

/-- An annotation: a property, a subject and a literal. -/
structure Annotation where
  property : Reference := {}
  /-- The subject as it is written. -/
  writtenSubject : Reference := {}
  literal : String := ""
  deriving DecidableEq, Repr

/-- The namespace of the annotation properties that have a meaning. -/
def rdfSchema : String := "http://www.w3.org/2000/01/rdf-schema#"

/-- The local name of an annotation property in that namespace. The abbreviated form counts if there
is one. -/
def Annotation.localName? (a : Annotation) : Option String :=
  match a.property.present.abbreviated, a.property.present.iri with
  | some abbreviated, _ => Text.afterPrefix? "rdfs:" abbreviated
  | none, some iri => Text.afterPrefix? rdfSchema iri
  | none, none => none

/-- The kind of an annotation. -/
def Annotation.kind (a : Annotation) : AnnotationKind :=
  match a.localName? with
  | some "label" => .label
  | some "comment" => .comment
  | some "seeAlso" => .seeAlso
  | _ => .other

/-- The subject of an annotation, without blanks around its forms. -/
def Annotation.subject (a : Annotation) : Reference :=
  Reference.present ⟨a.writtenSubject.iri.map Text.trim, a.writtenSubject.abbreviated.map Text.trim⟩

/-- A document. -/
structure Document where
  ontologyIri : Option String := none
  /-- The base for relative IRIs, if the document has one of its own. -/
  xmlBase : Option String := none
  prefixDeclarations : List PrefixDeclaration := []
  declarations : List Declaration := []
  axioms : List SubclassAxiom := []
  annotations : List Annotation := []
  deriving DecidableEq, Repr

namespace Document

/-- The prefixes that a document declares; the last declaration of a short name counts. -/
def prefixes (d : Document) : Prefixes :=
  .ofList (d.prefixDeclarations.map fun p => (p.name, p.iri))

/-- The base for relative IRIs. A base of its own hides the ontology's IRI even when it is empty. -/
def base? (d : Document) : Option String := nonempty? (d.xmlBase <|> d.ontologyIri)

end Document

end OntologySchema
