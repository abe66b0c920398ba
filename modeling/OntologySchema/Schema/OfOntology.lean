import OntologySchema.FieldNumber
import OntologySchema.Ontology.Hierarchy
import OntologySchema.Schema.Basic

/-!
# The schema of an ontology

Every class becomes a message, in the order of the IRIs. The message of a class without children has a
field for each data property and then for each object property that the class has of its own or from
its ancestors; the message of an abstract class is a union over the leaves below it.

Fields are drafted and numbered one by one, so that what a draft says and what its number says come in
the order of the fields.
-/

namespace OntologySchema

/-- Why there is no schema. -/
inductive SchemaError where
  | hierarchy (e : HierarchyError)
  | numbers (e : NumbersExhausted)
  deriving DecidableEq, Repr

/-- The wording of an error. -/
def SchemaError.message : SchemaError → String
  | .hierarchy e => e.message
  | .numbers e => e.message

/-- A field before it has a number, with the key that a hashed number is made from. -/
structure Draft where
  shape : FieldShape
  key : List String
  comments : List String := []
  options : List FieldOption := []
  deriving DecidableEq, Repr

/-- The field of a draft. -/
def Draft.numbered (d : Draft) (number : Nat) : Field where
  shape := d.shape
  number := number
  comments := d.comments
  options := d.options

namespace Schema

/-- Draft each item and number the drafts of `message` as they come; an item without a draft has no
field. -/
def numberAll {α : Type} (message : String) (draft : α → Attempt HierarchyError (Option Draft)) :
    List α → Numbering → Attempt SchemaError (List Field × Numbering)
  | [], numbering => pure ([], numbering)
  | item :: items, numbering => do
    match ← (draft item).mapError .hierarchy with
    | none => numberAll message draft items numbering
    | some d =>
      let (number, numbering) ←
        (numbering.assign message d.shape.name d.key).mapError .numbers
      let (fields, numbering) ← numberAll message draft items numbering
      return (d.numbered number :: fields, numbering)

/-- The lines of a property's comment, without blanks around them. -/
def commentLines (comment : Option String) : List String :=
  match comment with
  | none => []
  | some text => (Text.lines text).map Text.trim

/-- The options that say where a field comes from. -/
def semanticOptions (o : Ontology) (iri parent owner : String) : List FieldOption :=
  [.iri (o.prefixes.abbreviate iri), .parent parent, .classIri (o.prefixes.abbreviate owner)]

/-- The draft of a data property; without a type or a name it has none. -/
def dataDraft (s : SchemaOptions) (o : Ontology) (c : OntClass) (chain : List String)
    (p : DataProperty) : Attempt HierarchyError (Option Draft) :=
  if p.type = "" || p.name = "" then do
    Attempt.tell .debug "Skipping untyped data property"
      [("resource", .text c.name), ("iri", .text p.iri)]
    return none
  else
    return some
      { shape := { type := p.type, name := Naming.snakeCase p.name }
        key := chain ++ [p.name]
        comments := commentLines p.comment
        options :=
          (if p.name = "name" || p.name = "id" then [.required] else []) ++
            (if s.semantic then semanticOptions o p.iri "owl:topDataProperty" p.owner else []) }

/-- The draft of an object property; without a target name or an identifier it has none. -/
def objectDraft (s : SchemaOptions) (o : Ontology) (chain : List String) (p : ObjectProperty) :
    Attempt HierarchyError (Option Draft) :=
  if p.targetName = "" || p.iri = "" then return none
  else do
    let belowRoot ← o.isAtOrBelowRoot p.target
    return some
      { shape := (RelationRole.ofName p.name).field p.targetName belowRoot
        key := chain ++ [p.targetName]
        comments := commentLines p.comment
        options :=
          if s.semantic then semanticOptions o p.iri "owl:topObjectProperty" p.owner else [] }

/-- The draft of a union's variant. -/
def variantDraft (o : Ontology) (leaf : OntClass) : Attempt HierarchyError (Option Draft) := do
  let chain ← o.typeChain leaf.iri
  return some { shape := { type := leaf.name, name := Naming.snakeCase leaf.name }, key := chain }

/-- The order of data properties in a message: by display name. -/
def dataBefore (a b : DataProperty) : Bool := a.name ≤ b.name

/-- The order of object properties in a message: by target name, then by display name. -/
def objectBefore (a b : ObjectProperty) : Bool :=
  a.targetName < b.targetName || (a.targetName = b.targetName && a.name ≤ b.name)

/-- The options of the message of a class. -/
def messageOptions (s : SchemaOptions) (o : Ontology) (c : OntClass) (chain : List String) :
    Attempt HierarchyError (List MessageOption) :=
  if s.semantic then do
    let parents ← o.parentIris c.iri
    return .iri (o.prefixes.abbreviate c.iri) ::
      (parents.map (fun p => .parent (o.prefixes.abbreviate p)) ++ [.parent topClassAbbreviated])
  else return chain.map .typeName

/-- The union of an abstract class. -/
def union (s : SchemaOptions) (o : Ontology) (c : OntClass) : Attempt SchemaError MessageBody := do
  let leaves ← (o.leaves c.iri).mapError .hierarchy
  Attempt.tell .debug "Rendering union"
    [("resource", .text c.name), ("leaves", .number leaves.length)]
  let (variants, _) ← numberAll c.name (variantDraft o) leaves (.fresh s.hashedNumbers)
  return .union variants

/-- The fields of a class without children. -/
def record (s : SchemaOptions) (o : Ontology) (c : OntClass) : Attempt SchemaError MessageBody := do
  let chain ← (o.typeChain c.iri).mapError .hierarchy
  let options ← (messageOptions s o c chain).mapError .hierarchy
  let dataProperties ← (o.allDataProperties c.iri).mapError .hierarchy
  let (dataFields, numbering) ← numberAll c.name (dataDraft s o c chain)
    (dataProperties.mergeSort dataBefore) (.fresh s.hashedNumbers)
  let objectProperties ← (o.allObjectProperties c.iri).mapError .hierarchy
  let (objectFields, _) ← numberAll c.name (objectDraft s o chain)
    (objectProperties.mergeSort objectBefore) numbering
  return .record options (dataFields ++ objectFields)

/-- The message of a class. -/
def messageOf (s : SchemaOptions) (o : Ontology) (c : OntClass) : Attempt SchemaError Message := do
  let body ← if c.isAbstract then union s o c else record s o c
  return { name := c.name, comments := c.comments.flatMap Text.lines, body }

/-- The schema of an ontology. -/
def ofOntology (s : SchemaOptions) (o : Ontology) : Attempt SchemaError Schema := do
  let messages ← o.classes.values.mapM (messageOf s o)
  Attempt.tell .info "Generated protobuf schema"
    [("messages", .number o.classes.size), ("deterministic", .flag s.hashedNumbers),
     ("full_semantic", .flag s.semantic)]
  return {
    header := s.header
    preamble := if s.semantic then .prefixes o.prefixes.entries else .typeNames
    messages }

end Schema

end OntologySchema
