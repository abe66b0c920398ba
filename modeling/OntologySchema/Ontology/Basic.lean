import OntologySchema.Prefixes

/-!
# Ontologies

An ontology holds classes, keyed by their absolute IRIs and listed in that order, with the names and
comments of properties, the types of individuals and the prefixes of the document it came from. One
class may be designated as the root, by its IRI, its abbreviated IRI or its display name.
-/

namespace OntologySchema

/-- A data property as a class declares it. -/
structure DataProperty where
  /-- The property as the document writes it. -/
  iri : String
  /-- The schema type of its values. -/
  type : String
  /-- Its display name. -/
  name : String
  comment : Option String := none
  /-- The IRI of the class that declares it. -/
  owner : String
  deriving DecidableEq, Repr

/-- A reference to another class as a class declares it. -/
structure ObjectProperty where
  /-- The property as the document writes it. -/
  iri : String
  /-- Its display name. -/
  name : String
  /-- The IRI of the class that declares it. -/
  owner : String
  /-- The IRI of the class it refers to. -/
  target : String
  /-- The display name of the class it refers to. -/
  targetName : String
  comment : Option String := none
  deriving DecidableEq, Repr

/-- A class of an ontology. -/
structure OntClass where
  iri : String
  /-- The display name. -/
  name : String
  comments : List String := []
  /-- The IRI of the class it is a subclass of. -/
  parent : Option String := none
  dataProperties : List DataProperty := []
  objectProperties : List ObjectProperty := []
  /-- The IRIs of its direct subclasses. -/
  children : List String := []
  deriving DecidableEq, Repr

/-- A class with subclasses is abstract: it has no instances of its own. -/
def OntClass.isAbstract (c : OntClass) : Bool := !c.children.isEmpty

/-- Record a direct subclass, once. -/
def OntClass.addChild (c : OntClass) (iri : String) : OntClass :=
  if iri ∈ c.children then c else { c with children := c.children ++ [iri] }

/-- The display name and the comments of a property. -/
structure PropertyEntry where
  iri : String
  name : String
  comments : List String := []
  deriving DecidableEq, Repr

/-- The comments as one text, a line each. -/
def PropertyEntry.comment? (p : PropertyEntry) : Option String :=
  if p.comments.isEmpty then none else some ("\n".intercalate p.comments)

/-- An individual and the type that was noted for it. -/
structure Individual where
  iri : String
  type : Option String := none
  deriving DecidableEq, Repr

/-- A class hierarchy with properties. -/
structure Ontology where
  /-- Classes by IRI. -/
  classes : Table OntClass := .empty
  /-- Properties by the identifier under which they were declared. -/
  properties : Table PropertyEntry := .empty
  /-- Individuals by the identifier under which they were declared. -/
  individuals : Table Individual := .empty
  prefixes : Prefixes := .empty
  /-- The root class: its IRI, abbreviated IRI or display name. -/
  root : String := ""
  deriving DecidableEq, Repr

namespace Ontology

/-- The class with an IRI. -/
def find? (o : Ontology) (iri : String) : Option OntClass := o.classes.find? iri

/-- Put a class at its IRI, in place of the one that was there. -/
def insert (o : Ontology) (c : OntClass) : Ontology :=
  { o with classes := o.classes.insert c.iri c }

/-- Change the class with an IRI, if there is one. -/
def modify (o : Ontology) (iri : String) (f : OntClass → OntClass) : Ontology :=
  { o with classes := o.classes.modify iri f }

/-- Whether a class is the designated root. -/
def isRoot (o : Ontology) (c : OntClass) : Bool :=
  o.root ≠ "" &&
    (c.iri = o.root || c.name = o.root || o.prefixes.abbreviate c.iri = o.root)

/-- The first property entry that one of the identifiers has. -/
def property? (o : Ontology) (identifiers : List String) : Option PropertyEntry :=
  identifiers.findSome? o.properties.find?

/-- The first individual that one of the identifiers has. -/
def individual? (o : Ontology) (identifiers : List String) : Option Individual :=
  identifiers.findSome? o.individuals.find?

end Ontology

end OntologySchema
