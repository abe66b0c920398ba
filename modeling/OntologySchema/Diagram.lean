import OntologySchema.Log
import OntologySchema.Ontology.Basic
import OntologySchema.Schema.Text

/-!
# Class diagrams

A PlantUML class diagram of an ontology: a box for each class with its own data properties, an
inheritance arrow to each parent that the ontology has, and an arrow for each object property.
-/

namespace OntologySchema

/-- An arrow that stands for an object property. -/
structure Association where
  target : String
  source : String
  label : String
  deriving DecidableEq, Repr

/-- What a diagram shows of a class. -/
structure ClassBox where
  name : String
  attributes : List String
  parent : Option String
  associations : List Association
  deriving DecidableEq, Repr

/-- A class diagram. -/
structure Diagram where
  boxes : List ClassBox
  deriving DecidableEq, Repr

/-- The lines of a class: its box, then its arrows. -/
def ClassBox.lines (b : ClassBox) : List String :=
  ["", "class " ++ b.name ++ " \x7b"] ++ (b.attributes.map fun a => "\t" ++ a) ++ ["\x7d"] ++
    b.parent.toList.flatMap (fun p => ["", p ++ " <|-- " ++ b.name]) ++
    b.associations.flatMap (fun a => ["", a.target ++ " <-- " ++ a.source ++ " : " ++ a.label])

namespace Diagram

/-- The box of a class. -/
def boxOf (o : Ontology) (c : OntClass) : ClassBox where
  name := c.name
  attributes := c.dataProperties.map (·.name)
  parent := (c.parent.bind o.find?).map (·.name)
  associations := c.objectProperties.map fun p => ⟨p.targetName, c.name, p.name⟩

/-- The diagram of an ontology. -/
def ofOntology (o : Ontology) : Logged Diagram := do
  Logged.tell .info "Generated PlantUML diagram" [("classes", .number o.classes.size)]
  return ⟨o.classes.values.map (boxOf o)⟩

/-- The lines of a diagram. -/
def lines (d : Diagram) : List String :=
  ["@startuml ontology", "/' " ++ generatedBy ++ " '/"] ++ d.boxes.flatMap ClassBox.lines ++
    ["@enduml"]

/-- The text of a diagram. -/
def text (d : Diagram) : String := Text.unlines d.lines

end Diagram

end OntologySchema
