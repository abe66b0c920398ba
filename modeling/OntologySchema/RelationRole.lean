import OntologySchema.Naming

/-!
# Relation roles

The display name of an object property decides how a reference to another class becomes a field. A
class at or below the root is referred to by an identifier, any other class is embedded.
-/

namespace OntologySchema

/-- The label in front of a field. -/
inductive Label where
  | optional | repeated
  deriving DecidableEq, Repr

/-- The keyword of a label. -/
def Label.keyword : Label → String
  | .optional => "optional"
  | .repeated => "repeated"

/-- A field without its number. -/
structure FieldShape where
  label : Option Label := none
  type : String
  name : String
  deriving DecidableEq, Repr

/-- The text of a field without its number. -/
def FieldShape.text (f : FieldShape) : String :=
  (match f.label with
    | some label => label.keyword ++ " "
    | none => "") ++ f.type ++ " " ++ f.name

/-- How an object property is rendered. -/
inductive RelationRole where
  /-- To many targets. -/
  | repeated
  /-- To at most one target. -/
  | single
  /-- To another name of a target. -/
  | proxyTarget
  /-- To the parent, by its identifier. -/
  | parentId
  deriving DecidableEq, Repr

namespace RelationRole

/-- The role of a property by its display name; a name without a role of its own is `single`. -/
def ofName (name : String) : RelationRole :=
  if name ∈ ["hasMultiple", "offersMultiple", "to", "collectionOf"] then .repeated
  else if name = "proxyTarget" then .proxyTarget
  else if name = "parent" then .parentId
  else .single

/-- The field of a reference to `target`, which is at or below the root or is not. -/
def field (role : RelationRole) (target : String) (belowRoot : Bool) : FieldShape :=
  match role, belowRoot with
  | .proxyTarget, _ => { type := "string", name := Naming.snakeCase target }
  | .parentId, _ => { label := some .optional, type := "string", name := "parent_id" }
  | .single, true =>
    { label := some .optional, type := "string", name := Naming.snakeCase (target ++ "_id") }
  | .repeated, true =>
    { label := some .repeated, type := "string", name := Naming.snakeCase (target ++ "_ids") }
  | .single, false => { type := target, name := Naming.snakeCase target }
  | .repeated, false =>
    { label := some .repeated, type := target
      name := Naming.snakeCase (Naming.plural target) }

end RelationRole

end OntologySchema
