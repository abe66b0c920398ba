import OntologySchema.Json.Library
import OntologySchema.Ontology.Basic

/-!
# Ontologies as JSON

The export of an ontology, and how an export is read, over any library for JSON. Every field is written, an
absent text as null; on reading, an absent text may also be missing, and lists that are missing are empty.
-/

namespace OntologySchema

open Json (ofOption ofTexts listOf? entriesOf? required optional defaulted)
open Json.Library (text record table text? fields?)

variable {J : Type} [Json.Library J]

namespace DataProperty

/-- The JSON of a data property. -/
def toJson (p : DataProperty) : J :=
  record [("iri", text p.iri), ("field_type", text p.type), ("name", text p.name),
    ("comment", ofOption p.comment), ("owner", text p.owner)]

/-- The data property of a JSON value. -/
def ofJson? (j : J) : Option DataProperty := do
  let fs ← fields? ["iri", "field_type", "name", "comment", "owner"] 5 j
  return {
    iri := ← required fs "iri" text?
    type := ← required fs "field_type" text?
    name := ← required fs "name" text?
    comment := ← optional fs "comment" text?
    owner := ← required fs "owner" text? }

end DataProperty

namespace ObjectProperty

/-- The JSON of an object property. -/
def toJson (p : ObjectProperty) : J :=
  record [("property", text p.iri), ("property_name", text p.name), ("owner", text p.owner),
    ("target", text p.target), ("target_name", text p.targetName),
    ("comment", ofOption p.comment)]

/-- The object property of a JSON value. -/
def ofJson? (j : J) : Option ObjectProperty := do
  let fs ← fields? ["property", "property_name", "owner", "target", "target_name", "comment"] 6 j
  return {
    iri := ← required fs "property" text?
    name := ← required fs "property_name" text?
    owner := ← required fs "owner" text?
    target := ← required fs "target" text?
    targetName := ← required fs "target_name" text?
    comment := ← optional fs "comment" text? }

end ObjectProperty

namespace OntClass

/-- The JSON of a class. -/
def toJson (c : OntClass) : J :=
  record [("iri", text c.iri), ("name", text c.name), ("comments", ofTexts c.comments),
    ("parent", ofOption c.parent),
    ("relationships", Json.Library.list (c.dataProperties.map (·.toJson))),
    ("object_relationships", Json.Library.list (c.objectProperties.map (·.toJson))),
    ("children", ofTexts c.children)]

/-- The class of a JSON value. -/
def ofJson? (j : J) : Option OntClass := do
  let fs ← fields? ["iri", "name", "comments", "parent", "relationships", "object_relationships",
    "children"] 2 j
  return {
    iri := ← required fs "iri" text?
    name := ← required fs "name" text?
    comments := ← defaulted fs "comments" [] (listOf? text?)
    parent := ← optional fs "parent" text?
    dataProperties := ← defaulted fs "relationships" [] (listOf? DataProperty.ofJson?)
    objectProperties := ← defaulted fs "object_relationships" [] (listOf? ObjectProperty.ofJson?)
    children := ← defaulted fs "children" [] (listOf? text?) }

end OntClass

namespace PropertyEntry

/-- The JSON of a property entry. -/
def toJson (p : PropertyEntry) : J :=
  record [("iri", text p.iri), ("name", text p.name), ("comments", ofTexts p.comments)]

/-- The property entry of a JSON value. -/
def ofJson? (j : J) : Option PropertyEntry := do
  let fs ← fields? ["iri", "name", "comments"] 2 j
  return {
    iri := ← required fs "iri" text?
    name := ← required fs "name" text?
    comments := ← defaulted fs "comments" [] (listOf? text?) }

end PropertyEntry

namespace Individual

/-- The JSON of an individual. -/
def toJson (i : Individual) : J :=
  record [("iri", text i.iri), ("type_name", ofOption i.type)]

/-- The individual of a JSON value. -/
def ofJson? (j : J) : Option Individual := do
  let fs ← fields? ["iri", "type_name"] 2 j
  return { iri := ← required fs "iri" text?, type := ← optional fs "type_name" text? }

end Individual

namespace Table

variable {α : Type}

/-- The JSON of a table, whose entries are in the order of their keys. -/
def toJson (write : α → J) (t : Table α) : J :=
  table (t.entries.map fun e => (e.1, write e.2))

/-- The table of a JSON value. -/
def ofJson? (read : J → Option α) (j : J) : Option (Table α) :=
  (entriesOf? read j).map .ofList

end Table

namespace Ontology

/-- The JSON of an ontology. -/
def toJson (o : Ontology) : J :=
  record [("resources", o.classes.toJson OntClass.toJson),
    ("annotations", o.properties.toJson PropertyEntry.toJson),
    ("individuals", o.individuals.toJson Individual.toJson),
    ("prefixes", o.prefixes.toJson text),
    ("root_resource", text o.root)]

/-- The ontology of a JSON value. -/
def ofJson? (j : J) : Option Ontology := do
  let fs ← fields? ["resources", "annotations", "individuals", "prefixes", "root_resource"] 5 j
  return {
    classes := ← required fs "resources" (Table.ofJson? OntClass.ofJson?)
    properties := ← required fs "annotations" (Table.ofJson? PropertyEntry.ofJson?)
    individuals := ← required fs "individuals" (Table.ofJson? Individual.ofJson?)
    prefixes := ← required fs "prefixes" (Table.ofJson? text?)
    root := ← required fs "root_resource" text? }

/-- The text of an export. -/
def exported? (J : Type) [Json.Library J] (o : Ontology) : Option String :=
  Json.Library.print? (o.toJson : J)

end Ontology

end OntologySchema
