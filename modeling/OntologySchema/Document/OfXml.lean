import OntologySchema.Document.Basic
import OntologySchema.Xml.Parser

/-!
# The document in an XML text

The root element is the document, whatever its name. Elements and attributes are known by their names
without namespace prefixes; what is not known is passed over, with everything in it.

A field of text is an attribute, or an element whose name is that of the attribute after an `@`. A part
that may occur once fails when it occurs twice, and so does a list whose elements are written with
different prefixes. From the first element of a list on, no text may stand between the elements, and
what is passed over has to be readable: all references in it must stand for something. Before it
neither is asked. The list that comes first is read in place; this shows in the white space of literals.
-/

namespace OntologySchema

namespace Xml

/-- An element that is read: its attributes and contents. -/
structure Opened where
  attributes : List (String × List Char)
  contents : List Node

/-- Open a known element. Its attributes and its own text have to be readable; blank text does not
count. -/
def open? : Node → Option Opened
  | .text _ => none
  | .element _ attributes contents => do
    let attributes ← attributes? attributes
    let texts := contents.filter fun n => match n with
      | .text _ => true
      | .element _ _ _ => false
    if resolveAll texts then return ⟨attributes, contents.filter (!·.isBlank)⟩ else none

/-- Whether a node is an element with a local name. -/
def Node.isNamed (name : String) : Node → Bool
  | .text _ => false
  | .element n _ _ => localName n = name

/-- The text of an element that holds nothing else. -/
def Node.textOnly? : Node → Option String
  | .text _ => none
  | .element _ _ contents =>
    match contents.filter (!·.isBlank) with
    | [] => some ""
    | [.text pieces] => (resolvePieces? (trimmed false pieces)).map String.ofList
    | _ => none

/-- Whether a node is an element in which all references stand for something. -/
def Node.isReadableElement : Node → Bool
  | .text _ => false
  | n => n.resolves

/-- Whether two nodes are elements with one full name. -/
def Node.sameName : Node → Node → Bool
  | .element n _ _, .element m _ _ => n = m
  | _, _ => false

namespace Opened

/-- A field of text that occurs at most once: an attribute by its local name, or an element named like
it with an `@` in front. -/
def field? (e : Opened) (name : String) : Option (Option String) :=
  match e.attributes.filter fun a => !isNamespace a.1 && localName a.1 = name,
    e.contents.filter (Node.isNamed ("@" ++ name)) with
  | [], [] => some none
  | [a], [] => (resolve? a.2).map fun cs => some (String.ofList cs)
  | [], [n] => n.textOnly?.map some
  | _, _ => none

/-- A part that occurs at most once. -/
def child? {α : Type} (e : Opened) (name : String) (read : Node → Option α) : Option (Option α) :=
  match e.contents.filter (Node.isNamed name) with
  | [] => some none
  | [n] => (read n).map some
  | _ => none

/-- A part that occurs at most once and has a default. -/
def childD {α : Type} (e : Opened) (name : String) (default : α) (read : Node → Option α) :
    Option α :=
  (e.child? name read).map (·.getD default)

/-- A list of parts, all written with one full name. -/
def children? {α : Type} (e : Opened) (name : String) (read : Node → Option α) :
    Option (List α) :=
  match e.contents.filter (Node.isNamed name) with
  | [] => some []
  | n :: ns => if ns.all n.sameName then (n :: ns).mapM read else none

/-- Whether, of some lists, the one with a name comes first. Its elements are read in place, those of
the others are put aside and read later. -/
def comesFirst (e : Opened) (name : String) (lists : List String) : Bool :=
  (e.contents.find? fun n => lists.any (Node.isNamed · n)).any (Node.isNamed name)

/-- Whether all that comes after the first element of one of the lists, and is no element of that name,
is an element that can be read. -/
def readableAfter (e : Opened) (lists : List String) : Bool :=
  match e.contents.dropWhile fun n => !lists.any (Node.isNamed · n) with
  | [] => true
  | first :: rest => rest.all fun n => first.sameName n || n.isReadableElement

end Opened

end Xml

namespace Document

open Xml

/-- The reference that the fields of an element make. -/
def reference? (n : Node) : Option Reference := do
  let e ← open? n
  return { iri := ← e.field? "IRI", abbreviated := ← e.field? "abbreviatedIRI" }

/-- What counts in a literal: its text and elements named `$text`. In a literal that is read in place,
text after another element that itself starts with text keeps the white space at its own start;
`keepsStart` tells whether this is so for the first of the contents. -/
def literalParts (inPlace : Bool) : (keepsStart : Bool) → List Node → List Node
  | _, [] => []
  | keepsStart, .text pieces :: rest =>
    match trimmed keepsStart pieces with
    | [] => literalParts inPlace false rest
    | pieces => .text pieces :: literalParts inPlace false rest
  | _, n :: rest =>
    if n.isNamed "$text" then n :: literalParts inPlace false rest
    else literalParts inPlace (inPlace && n.startsWithText) rest

/-- The text of a literal. -/
def literal? (inPlace : Bool) : Node → Option String
  | .text _ => none
  | n@(.element _ _ contents) => do
    let _ ← open? n
    match literalParts inPlace false contents with
    | [] => return ""
    | [.text pieces] => (resolvePieces? pieces).map String.ofList
    | [n] => n.textOnly?
    | _ => none

/-- A prefix declaration. -/
def prefixDeclaration? (n : Node) : Option PrefixDeclaration := do
  let e ← open? n
  return {
    name := (← e.field? "name").getD ""
    iri := (← e.field? "IRI").getD "" }

/-- A declaration. -/
def declaration? (n : Node) : Option Declaration := do
  let e ← open? n
  return {
    class? := ← e.child? "Class" reference?
    objectProperty? := ← e.child? "ObjectProperty" reference?
    dataProperty? := ← e.child? "DataProperty" reference?
    individual? := ← e.child? "NamedIndividual" reference? }

/-- A data property with a datatype. -/
def dataSome? (n : Node) : Option DataSome := do
  let e ← open? n
  return {
    property := ← e.childD "DataProperty" {} reference?
    datatype? := ← e.child? "Datatype" reference? }

/-- A data property with a literal. -/
def dataValue? (inPlace : Bool) (n : Node) : Option DataValue := do
  let e ← open? n
  return {
    property := ← e.childD "DataProperty" {} reference?
    literal := ← e.childD "Literal" "" (literal? inPlace) }

/-- An object property with a class. -/
def objectSome? (n : Node) : Option ObjectSome := do
  let e ← open? n
  return {
    property := ← e.childD "ObjectProperty" {} reference?
    target := ← e.childD "Class" {} reference? }

/-- An object property with an individual. -/
def objectValue? (n : Node) : Option ObjectValue := do
  let e ← open? n
  return {
    property := ← e.childD "ObjectProperty" {} reference?
    individual := ← e.childD "NamedIndividual" {} reference? }

/-- A subclass axiom. -/
def axiom? (inPlace : Bool) (n : Node) : Option SubclassAxiom := do
  let e ← open? n
  let lists := ["Class", "DataSomeValuesFrom", "DataHasValue", "ObjectSomeValuesFrom",
    "ObjectHasValue"]
  if e.readableAfter lists then
    return {
      classes := ← e.children? "Class" reference?
      dataSome := ← e.children? "DataSomeValuesFrom" dataSome?
      dataValue := ← e.children? "DataHasValue"
        (dataValue? (inPlace && e.comesFirst "DataHasValue" lists))
      objectSome := ← e.children? "ObjectSomeValuesFrom" objectSome?
      objectValue := ← e.children? "ObjectHasValue" objectValue? }
  else none

/-- An annotation. -/
def annotation? (inPlace : Bool) (n : Node) : Option Annotation := do
  let e ← open? n
  return {
    property := ← e.childD "AnnotationProperty" {} reference?
    writtenSubject := ⟨← e.child? "IRI" Node.textOnly?, ← e.child? "AbbreviatedIRI" Node.textOnly?⟩
    literal := ← e.childD "Literal" "" (literal? inPlace) }

/-- The document of a root element. -/
def ofNode? (n : Node) : Option Document := do
  let e ← open? n
  let lists := ["Prefix", "Declaration", "SubClassOf", "AnnotationAssertion"]
  if e.readableAfter lists then
    return {
      ontologyIri := ← e.field? "ontologyIRI"
      xmlBase := ← e.field? "xml:base"
      prefixDeclarations := ← e.children? "Prefix" prefixDeclaration?
      declarations := ← e.children? "Declaration" declaration?
      axioms := ← e.children? "SubClassOf" (axiom? (e.comesFirst "SubClassOf" lists))
      annotations := ← e.children? "AnnotationAssertion"
        (annotation? (e.comesFirst "AnnotationAssertion" lists)) }
  else none

/-- The document in an XML text. -/
def ofXml? (text : String) : Option Document := (parse? text).bind ofNode?

end Document

end OntologySchema
