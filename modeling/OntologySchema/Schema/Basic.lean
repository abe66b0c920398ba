import OntologySchema.RelationRole
import OntologySchema.Text.Blank

/-!
# Schemas

A protobuf schema as data: a message for each class, with its fields or, for an abstract class, with a
union over the classes that stand for it. The text of a schema is made from this and from nothing else.
-/

namespace OntologySchema

/-- What the schema of an ontology is to hold. -/
structure SchemaOptions where
  /-- Number fields by hashing, not by counting. -/
  hashedNumbers : Bool := true
  /-- Emit IRIs, prefixes and parents, not only type names. -/
  semantic : Bool := true
  /-- The text at the top. -/
  header : String := "syntax = \"proto3\";"
  deriving DecidableEq, Repr, Inhabited

/-- Number fields by counting. -/
def SchemaOptions.ascending (s : SchemaOptions) : SchemaOptions := { s with hashedNumbers := false }

/-- Emit only type names. -/
def SchemaOptions.condensed (s : SchemaOptions) : SchemaOptions := { s with semantic := false }

/-- An option of a field. -/
inductive FieldOption where
  | required
  | iri (abbreviated : String)
  | parent (property : String)
  | classIri (abbreviated : String)
  deriving DecidableEq, Repr

/-- A field of a message, or a variant of a union. -/
structure Field where
  shape : FieldShape
  number : Nat
  comments : List String := []
  options : List FieldOption := []
  deriving DecidableEq, Repr

/-- An option of a message. -/
inductive MessageOption where
  | iri (abbreviated : String)
  | parent (abbreviated : String)
  | typeName (name : String)
  deriving DecidableEq, Repr

/-- What is in a message. -/
inductive MessageBody where
  /-- One of the variants. -/
  | union (variants : List Field)
  /-- All of the fields. -/
  | record (options : List MessageOption) (fields : List Field)
  deriving DecidableEq, Repr

/-- A message. -/
structure Message where
  name : String
  comments : List String
  body : MessageBody
  deriving DecidableEq, Repr

/-- The fields or variants of a message, from top to bottom. -/
def Message.fields (m : Message) : List Field :=
  match m.body with
  | .union variants => variants
  | .record _ fields => fields

/-- What stands between the header and the messages. -/
inductive Preamble where
  /-- The prefixes of the IRIs in the options. -/
  | prefixes (entries : List (String × String))
  /-- The extension that the type names are options of. -/
  | typeNames
  deriving DecidableEq, Repr

/-- A schema. -/
structure Schema where
  header : String
  preamble : Preamble
  messages : List Message
  deriving DecidableEq, Repr

end OntologySchema
