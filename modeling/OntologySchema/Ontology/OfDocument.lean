import OntologySchema.Log
import OntologySchema.Datatype
import OntologySchema.Document.Resolver
import OntologySchema.Ontology.Basic

/-!
# The ontology of a document

An ontology is built from a document in three passes: declarations make classes, property entries and
individuals; annotations give them names, comments and types; axioms give the classes parents,
children and properties.

Nothing in a document is a failure. A part that refers to what was never declared is left out, and an
event says so.
-/

namespace OntologySchema

namespace Ontology

/-! ### Declarations -/

/-- The canonical IRI of a reference; an event says that there is none. -/
def canonical (rv : Resolver) (r : Reference) : Logged (Option String) :=
  match rv.canonical? r with
  | some iri => pure (some iri)
  | none => do
    Logged.tell .warn "Cannot resolve IRI"
      [("iri", .ofOption r.iri), ("abbreviated_iri", .ofOption r.abbreviated)]
    return none

/-- Register a property under its identifier, once. -/
def declareProperty (o : Ontology) : Option Reference → Logged Ontology
  | none => pure o
  | some r =>
    match r.present.identifier? with
    | none => do
      Logged.tell .warn "Property declaration without IRI"
      return o
    | some identifier =>
      if o.properties.contains identifier then pure o
      else
        let entry : PropertyEntry :=
          { iri := identifier, name := Naming.clean r.present.derivedName }
        pure { o with properties := o.properties.insert identifier entry }

/-- Register an individual under its identifier, once. -/
def declareIndividual (o : Ontology) : Option Reference → Logged Ontology
  | none => pure o
  | some r =>
    match r.present.identifier? with
    | none => do
      Logged.tell .warn "Named individual declaration without IRI"
      return o
    | some identifier =>
      if o.individuals.contains identifier then pure o
      else pure { o with individuals := o.individuals.insert identifier { iri := identifier } }

/-- Register the property and the individual of a declaration. -/
def declareOthers (o : Ontology) (d : Declaration) : Logged Ontology := do
  let o ← o.declareProperty d.dataProperty?
  let o ← o.declareProperty d.objectProperty?
  o.declareIndividual d.individual?

/-- Take in a declaration. A class that has no IRI or is there already ends it. -/
def declare (rv : Resolver) (o : Ontology) (d : Declaration) : Logged Ontology :=
  match d.class? with
  | none => o.declareOthers d
  | some r => do
    match ← canonical rv r.present with
    | none => return o
    | some iri =>
      if o.classes.contains iri then
        Logged.tell .debug "Class declared more than once" [("iri", .text iri)]
        return o
      else
        declareOthers (o.insert { iri, name := Naming.clean (Naming.lastSegment iri) }) d

/-! ### Annotations -/

/-- Change the property entry that the first of the keys has. -/
def modifyProperty? (o : Ontology) (keys : List String) (f : PropertyEntry → PropertyEntry) :
    Option Ontology :=
  (keys.find? o.properties.contains).map fun k => { o with properties := o.properties.modify k f }

/-- Change the class or else the property that an annotation is about. -/
def modifySubject? (rv : Resolver) (o : Ontology) (a : Annotation) (onClass : OntClass → OntClass)
    (onProperty : PropertyEntry → PropertyEntry) : Option Ontology :=
  match (rv.canonical? a.subject).filter o.classes.contains with
  | some iri => some (o.modify iri onClass)
  | none => o.modifyProperty? (rv.lookupKeys a.subject) onProperty

/-- What an annotation changes, or the message that its subject is not of the right kind. -/
def annotate? (rv : Resolver) (o : Ontology) (a : Annotation) : Except String Ontology :=
  let literal := Text.trim a.literal
  match a.kind with
  | .other => .ok o
  | .label =>
    let name := Naming.clean literal
    match o.modifySubject? rv a ({ · with name }) ({ · with name }) with
    | some o => .ok o
    | none => .error "Label on undeclared entity"
  | .comment =>
    match o.modifySubject? rv a (fun c => { c with comments := c.comments ++ [literal] })
        (fun p => { p with comments := p.comments ++ [literal] }) with
    | some o => .ok o
    | none => .error "Comment on undeclared entity"
  | .seeAlso =>
    match (rv.lookupKeys a.subject).find? o.individuals.contains with
    | some k =>
      .ok { o with individuals := o.individuals.modify k ({ · with type := some literal }) }
    | none => .error "seeAlso on non-individual"

/-- Take in an annotation. -/
def annotate (rv : Resolver) (o : Ontology) (a : Annotation) : Logged Ontology :=
  match o.annotate? rv a with
  | .ok o => pure o
  | .error message => do
    Logged.tell .debug message [("subject", .ofOption a.subject.identifier?)]
    return o

/-! ### Axioms -/

/-- The display name of a property: that of its entry, or the one its identifier suggests. -/
def propertyName (rv : Resolver) (o : Ontology) (r : Reference) : String :=
  match o.property? (rv.lookupKeys r) with
  | some entry => if entry.name ≠ "" then entry.name else Naming.clean r.derivedName
  | none => Naming.clean r.derivedName

/-- The comment of a property. -/
def propertyComment? (rv : Resolver) (o : Ontology) (r : Reference) : Option String :=
  (o.property? (rv.lookupKeys r)).bind (·.comment?)

/-- The canonical IRI of a class that was declared; an event says that it was not. -/
def declaredClass (rv : Resolver) (o : Ontology) (r : Reference) : Logged (Option String) := do
  match ← canonical rv r with
  | none => return none
  | some iri =>
    if o.classes.contains iri then return some iri
    else
      Logged.tell .warn "Subclass axiom references undeclared class, skipping"
        [("iri", .text iri)]
      return none

/-- Make `parent` the parent of `child`, and `child` a child of `parent`. -/
def link (o : Ontology) (child parent : String) : Ontology :=
  (o.modify child ({ · with parent := some parent })).modify parent (·.addChild child)

/-- Take in that one class is a subclass of another. The top class is nobody's parent, the first parent
of a class stays, and a class is not its own parent. -/
def attachParent (rv : Resolver) (o : Ontology) (subject parent : Reference) : Logged Ontology :=
  if parent.identifier?.any isTopClass then pure o
  else do
    match ← canonical rv parent with
    | none => return o
    | some parentIri =>
      if isTopClass parentIri then return o
      else
        match ← o.declaredClass rv subject with
        | none => return o
        | some child =>
          if !o.classes.contains parentIri then
            Logged.tell .warn "Parent class was never declared, skipping"
              [("child", .text child), ("parent", .text parentIri)]
            return o
          else if parentIri = child then
            Logged.tell .warn "Class declared as its own parent, skipping" [("iri", .text child)]
            return o
          else
            match ((o.find? child).bind (·.parent)).filter (· ≠ parentIri) with
            | some kept =>
              Logged.tell .warn "Multiple parents are not supported, keeping the first"
                [("child", .text child), ("kept", .text kept), ("ignored", .text parentIri)]
              return o
            | none => return o.link child parentIri

/-- Give a class a data property. -/
def addDataProperty (o : Ontology) (owner : String) (p : DataProperty) : Ontology :=
  o.modify owner fun c => { c with dataProperties := c.dataProperties ++ [p] }

/-- Give a class an object property. -/
def addObjectProperty (o : Ontology) (owner : String) (p : ObjectProperty) : Ontology :=
  o.modify owner fun c => { c with objectProperties := c.objectProperties ++ [p] }

/-- The data property `identifier` of `owner`, with values of a datatype. -/
def dataProperty (rv : Resolver) (o : Ontology) (owner : String) (r : Reference)
    (identifier datatype : String) : DataProperty where
  iri := identifier
  type := Datatype.schemaType datatype
  name := o.propertyName rv r
  comment := o.propertyComment? rv r
  owner := owner

/-- The datatype that a reference names, abbreviated if it can be. -/
def datatypeName? (rv : Resolver) (r : Reference) : Option String :=
  match r.present.abbreviated, r.present.iri with
  | some abbreviated, _ => some abbreviated
  | none, some iri => some (rv.prefixes.abbreviate iri)
  | none, none => none

/-- Say that a restriction of `owner` was left out. -/
def skipped (o : Ontology) (owner message : String) (details : List (String × Log.Value) := []) :
    Logged Ontology := do
  Logged.tell .warn message (("owner", .text owner) :: details)
  return o

/-- Take in a data property with a datatype. -/
def attachDataSome (rv : Resolver) (owner : String) (o : Ontology) (s : DataSome) :
    Logged Ontology :=
  let r := s.property.present
  match r.identifier? with
  | none => o.skipped owner "Data property without IRI, skipping"
  | some identifier =>
    match s.datatype?.bind (datatypeName? rv) with
    | none =>
      o.skipped owner "Data property without datatype, skipping" [("property", .text identifier)]
    | some datatype =>
      pure (o.addDataProperty owner (o.dataProperty rv owner r identifier datatype))

/-- Take in a data property with a literal. -/
def attachDataValue (rv : Resolver) (owner : String) (o : Ontology) (s : DataValue) :
    Logged Ontology :=
  let r := s.property.present
  match r.identifier? with
  | none => o.skipped owner "Data property without IRI, skipping"
  | some identifier =>
    pure (o.addDataProperty owner
      (o.dataProperty rv owner r identifier (Text.trim s.literal)))

/-- Take in an object property whose values are in a class. -/
def attachObjectSome (rv : Resolver) (owner : String) (o : Ontology) (s : ObjectSome) :
    Logged Ontology :=
  let r := s.property.present
  match r.identifier? with
  | none => o.skipped owner "Object property without IRI, skipping"
  | some identifier => do
    match ← canonical rv s.target.present with
    | none => return o
    | some targetIri =>
      match o.find? targetIri with
      | none =>
        o.skipped owner "Object property points at undeclared class, skipping"
          [("target", .text targetIri)]
      | some target =>
        return o.addObjectProperty owner
          { iri := identifier
            name := o.propertyName rv r
            owner := owner
            target := targetIri
            targetName := target.name
            comment := o.propertyComment? rv r }

/-- Take in an object property whose value is an individual; the type that was noted for it, or else
its identifier, is the datatype. -/
def attachObjectValue (rv : Resolver) (owner : String) (o : Ontology) (s : ObjectValue) :
    Logged Ontology :=
  let r := s.property.present
  match r.identifier? with
  | none => o.skipped owner "Object property without IRI, skipping"
  | some identifier =>
    let i := s.individual.present
    match i.identifier? with
    | none =>
      o.skipped owner "Object value without individual, skipping" [("property", .text identifier)]
    | some individual =>
      let datatype := ((o.individual? (rv.lookupKeys i)).bind (·.type)).getD individual
      pure (o.addDataProperty owner (o.dataProperty rv owner r identifier datatype))

/-- Take in the restrictions of a class, if the class was declared. -/
def attachAll {α : Type} (rv : Resolver) (o : Ontology) (subject : Reference)
    (attach : String → Ontology → α → Logged Ontology) (restrictions : List α) :
    Logged Ontology := do
  match ← o.declaredClass rv subject.present with
  | none => return o
  | some owner => restrictions.foldlM (attach owner) o

/-- Take in a subclass axiom. -/
def attach (rv : Resolver) (o : Ontology) (a : SubclassAxiom) : Logged Ontology :=
  match a.shape? with
  | none => do
    Logged.tell .debug "Skipping unsupported subclass axiom"
    return o
  | some (.subclass subject parent) => o.attachParent rv subject.present parent.present
  | some (.dataSome subject rs) => o.attachAll rv subject (attachDataSome rv) rs
  | some (.dataValue subject rs) => o.attachAll rv subject (attachDataValue rv) rs
  | some (.objectSome subject rs) => o.attachAll rv subject (attachObjectSome rv) rs
  | some (.objectValue subject rs) => o.attachAll rv subject (attachObjectValue rv) rs

/-! ### The three passes -/

/-- The ontology of a document, with a root class that may or may not be there. -/
def ofDocument (root : String) (d : Document) : Logged Ontology := do
  let rv := d.resolver
  let empty : Ontology := { prefixes := d.prefixes, root := root }
  let o ← d.declarations.foldlM (declare rv) empty
  let o ← d.annotations.foldlM (annotate rv) o
  let o ← d.axioms.foldlM (attach rv) o
  Logged.tell .info "Normalized ontology"
    [("resources", .number o.classes.size), ("properties", .number o.properties.size),
     ("individuals", .number o.individuals.size)]
  if !o.classes.values.any o.isRoot then
    Logged.tell .warn "No resource matches the root resource name" [("root", .text root)]
  return o

end Ontology

end OntologySchema
