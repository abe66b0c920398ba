import Mathlib.Data.List.Nodup
import OntologySchema.Diagram
import OntologySchema.Proofs.ByteOrder
import OntologySchema.Proofs.Ontology.WellFormed

/-!
# Diagrams and schemas show the same hierarchy

A diagram is drawn part by part (`Diagram.lines_eq`). It reads the hierarchy from the side of the children,
each of which names its parent, and the targets of object properties by the names that were copied; a schema
reads the hierarchy from the side of the parents, which list their children, and looks targets up. In a
well-formed ontology the two sides are the same links, each of them once (`WellFormed.links_perm`), so the
diagram of a document shows what the schema is made from (`shows_ofDocument`), also where the hierarchy has
a cycle and there is no schema.
-/

namespace OntologySchema

/-- What is drawn: a box with attributes, an arrow to a parent or an arrow for an object property. -/
inductive DiagramPart where
  | box (name : String) (attributes : List String)
  | inheritance (parent child : String)
  | association (a : Association)
  deriving DecidableEq

namespace DiagramPart

/-- The lines of a part. -/
def lines : DiagramPart → List String
  | box name attributes =>
    ["", "class " ++ name ++ " \x7b"] ++ (attributes.map fun a => "\t" ++ a) ++ ["\x7d"]
  | inheritance parent child => ["", parent ++ " <|-- " ++ child]
  | association a => ["", a.target ++ " <-- " ++ a.source ++ " : " ++ a.label]

/-- The name and the attributes of a box. -/
def box? : DiagramPart → Option (String × List String)
  | box name attributes => some (name, attributes)
  | _ => none

/-- The parent and the child that an arrow joins. -/
def inheritance? : DiagramPart → Option (String × String)
  | inheritance parent child => some (parent, child)
  | _ => none

/-- The object property that an arrow stands for. -/
def association? : DiagramPart → Option Association
  | association a => some a
  | _ => none

end DiagramPart

/-- The parts of a class: its box, then its arrows. -/
def ClassBox.parts (b : ClassBox) : List DiagramPart :=
  .box b.name b.attributes :: (b.parent.toList.map fun p => .inheritance p b.name) ++
    b.associations.map .association

/-- The parts of a diagram, in the order in which they are drawn. -/
def Diagram.parts (g : Diagram) : List DiagramPart := g.boxes.flatMap ClassBox.parts

theorem ClassBox.lines_eq (b : ClassBox) : b.lines = b.parts.flatMap DiagramPart.lines := by
  unfold ClassBox.lines ClassBox.parts
  simp [List.flatMap_map, DiagramPart.lines]

/-- The lines between the first two and the last are those of the parts. -/
theorem Diagram.lines_eq (g : Diagram) :
    g.lines = ["@startuml ontology", "/' " ++ generatedBy ++ " '/"] ++
      g.parts.flatMap DiagramPart.lines ++ ["@enduml"] := by
  unfold Diagram.lines Diagram.parts
  rw [List.flatMap_assoc, funext ClassBox.lines_eq]

namespace ClassBox

/-! ### The parts of a class -/

theorem filterMap_box? (b : ClassBox) :
    b.parts.filterMap DiagramPart.box? = [(b.name, b.attributes)] := by
  simp [parts, List.filterMap_map, Function.comp_def, DiagramPart.box?]

theorem filterMap_inheritance? (b : ClassBox) :
    b.parts.filterMap DiagramPart.inheritance? = b.parent.toList.map fun p => (p, b.name) := by
  simp [parts, List.filterMap_cons, List.filterMap_map, Function.comp_def, DiagramPart.inheritance?]

theorem filterMap_association? (b : ClassBox) :
    b.parts.filterMap DiagramPart.association? = b.associations := by
  simp [parts, List.filterMap_cons, List.filterMap_map, Function.comp_def, DiagramPart.association?]

end ClassBox

namespace Ontology

variable {o : Ontology}

/-! ### Links, read from either end -/

/-- The links that classes have to their parents, the parent first. -/
def parentLinks (o : Ontology) : List (String × String) :=
  o.classes.values.filterMap fun c => c.parent.map fun p => (p, c.iri)

/-- The links that classes have to their children, the parent first. -/
def childLinks (o : Ontology) : List (String × String) :=
  o.classes.values.flatMap fun c => c.children.map fun k => (c.iri, k)

/-- The names of two classes. -/
def names? (o : Ontology) (l : String × String) : Option (String × String) :=
  (o.find? l.1).bind fun p => (o.find? l.2).map fun c => (p.name, c.name)

theorem Keyed.map_iri (hk : o.Keyed) : o.classes.values.map (·.iri) = o.classes.keys := by
  unfold Table.values Table.keys
  rw [List.map_map]
  exact List.map_congr_left fun e he => hk e.1 e.2 (Table.find?_eq_some_iff.2 he)

/-- Classes stand in the order of the bytes of their IRIs. -/
theorem Keyed.pairwise_utf8 (hk : o.Keyed) :
    (o.classes.values.map (·.iri)).Pairwise fun a b => Text.utf8 a < Text.utf8 b := by
  rw [hk.map_iri]
  exact List.pairwise_map.2 (o.classes.ordered.imp Text.utf8_lt_utf8_iff.2)

theorem Keyed.nodup_iris (hk : o.Keyed) : (o.classes.values.map (·.iri)).Nodup := by
  refine hk.pairwise_utf8.imp fun {a b} hlt he => ?_
  exact String.lt_irrefl b (Text.utf8_lt_utf8_iff.1 (he ▸ hlt))

theorem Keyed.mem_parentLinks (hk : o.Keyed) {l : String × String} :
    l ∈ o.parentLinks ↔ o.HasParent l.2 l.1 := by
  rw [parentLinks, List.mem_filterMap]
  constructor
  · rintro ⟨c, hc, hl⟩
    obtain ⟨p, hp, rfl⟩ := Option.map_eq_some_iff.1 hl
    exact ⟨c, hk.mem_values_iff.1 hc, hp⟩
  · rintro ⟨c, hc, hp⟩
    refine ⟨c, Table.mem_values_of_find? hc, ?_⟩
    rw [hp, hk l.2 c hc]
    rfl

theorem WellFormed.mem_childLinks (hw : o.WellFormed) {l : String × String} :
    l ∈ o.childLinks ↔ o.HasChild l.1 l.2 := by
  rw [childLinks, List.mem_flatMap]
  constructor
  · rintro ⟨c, hc, hl⟩
    obtain ⟨k, hm, rfl⟩ := List.mem_map.1 hl
    have hc := hw.keyed.mem_values_iff.1 hc
    obtain ⟨d, hd, -⟩ := hw.child_linked hc hm
    exact ⟨c, d, hc, hm, hd⟩
  · rintro ⟨c, d, hc, hm, -⟩
    refine ⟨c, Table.mem_values_of_find? hc, List.mem_map.2 ⟨l.2, hm, ?_⟩⟩
    rw [hw.keyed l.1 c hc]

/-- A class has one parent at most. -/
theorem Keyed.nodup_parentLinks (hk : o.Keyed) : o.parentLinks.Nodup := by
  have hchildren : o.parentLinks.map (·.2) = (o.classes.values.filter (·.parent.isSome)).map (·.iri) := by
    unfold parentLinks
    induction o.classes.values with
    | nil => rfl
    | cons c cs ih =>
      cases hp : c.parent <;> simp [hp, ih]
  refine List.Nodup.of_map (·.2) ?_
  rw [hchildren]
  exact hk.nodup_iris.sublist (List.filter_sublist.map _)

/-- A class lists a child once, and it is the only one that does. -/
theorem WellFormed.nodup_childLinks (hw : o.WellFormed) : o.childLinks.Nodup := by
  refine List.nodup_flatMap.2 ⟨fun c hc => ?_, ?_⟩
  · have hc := hw.keyed.mem_values_iff.1 hc
    exact (hw.children_nodup hc).map fun _ _ h => congrArg Prod.snd h
  · refine (List.pairwise_map.1 hw.keyed.nodup_iris).imp fun {c c'} hne l hl hl' => hne ?_
    obtain ⟨_, -, rfl⟩ := List.mem_map.1 hl
    obtain ⟨_, -, h⟩ := List.mem_map.1 hl'
    exact (congrArg Prod.fst h).symm

/-- What the children say is what the parents say. -/
theorem WellFormed.links_perm (hw : o.WellFormed) : o.parentLinks.Perm o.childLinks := by
  refine (List.perm_ext_iff_of_nodup hw.keyed.nodup_parentLinks hw.nodup_childLinks).2 fun l => ?_
  rw [hw.keyed.mem_parentLinks, hw.mem_childLinks, hw.hasChild_iff]

theorem Keyed.names_parentLinks (hk : o.Keyed) :
    o.parentLinks.filterMap o.names? =
      o.classes.values.filterMap fun c => (c.parent.bind o.find?).map fun p => (p.name, c.name) := by
  unfold parentLinks
  rw [List.filterMap_filterMap]
  refine List.filterMap_congr fun c hc => ?_
  cases hp : c.parent with
  | none => rfl
  | some p => simp [names?, hk.mem_values_iff.1 hc, Option.map_eq_bind]

theorem Keyed.names_childLinks (hk : o.Keyed) :
    o.childLinks.filterMap o.names? =
      o.classes.values.flatMap fun c => (c.children.filterMap o.find?).map fun d => (c.name, d.name) := by
  unfold childLinks
  rw [List.filterMap_flatMap]
  refine List.flatMap_congr fun c hc => ?_
  rw [List.filterMap_map, List.map_filterMap]
  refine List.filterMap_congr fun k _ => ?_
  simp [names?, hk.mem_values_iff.1 hc]

end Ontology

namespace Diagram

/-! ### The diagram of a document -/

/-- A diagram shows an ontology, and nothing else. -/
structure Shows (g : Diagram) (o : Ontology) : Prop where
  /-- Only the parts are drawn. -/
  text_eq : g.text = Text.unlines (["@startuml ontology", "/' " ++ generatedBy ++ " '/"] ++
    g.parts.flatMap DiagramPart.lines ++ ["@enduml"])
  /-- A class is listed before those whose IRIs have larger bytes. -/
  ordered : (o.classes.values.map (·.iri)).Pairwise fun a b => Text.utf8 a < Text.utf8 b
  /-- Each class has a box, with the names of its data properties. -/
  boxes : g.parts.filterMap DiagramPart.box? =
    o.classes.values.map fun c => (c.name, c.dataProperties.map (·.name))
  /-- The data properties of a class are its own. -/
  data_owned : ∀ c ∈ o.classes.values, ∀ p ∈ c.dataProperties, p.owner = c.iri
  /-- There is an arrow to each class from the parent that it names. -/
  from_parents : g.parts.filterMap DiagramPart.inheritance? =
    o.classes.values.filterMap fun c => (c.parent.bind o.find?).map fun p => (p.name, c.name)
  /-- These are the arrows from each class to the children that it lists. -/
  to_children : (g.parts.filterMap DiagramPart.inheritance?).Perm
    (o.classes.values.flatMap fun p => (p.children.filterMap o.find?).map fun c => (p.name, c.name))
  /-- What a class lists as a child is a class. -/
  child_there : ∀ p ∈ o.classes.values, ∀ k ∈ p.children, ∃ c ∈ o.classes.values, c.iri = k
  /-- There is an arrow for each object property, from the class that has it. -/
  associations : g.parts.filterMap DiagramPart.association? =
    o.classes.values.flatMap fun c => c.objectProperties.map fun p => ⟨p.targetName, c.name, p.name⟩
  /-- An object property is one of its class, and it leads to the name of a class. -/
  target_there : ∀ c ∈ o.classes.values, ∀ p ∈ c.objectProperties, p.owner = c.iri ∧
    ∃ t ∈ o.classes.values, t.iri = p.target ∧ p.targetName = t.name

theorem parts_ofOntology (o : Ontology) :
    (ofOntology o).value.parts = o.classes.values.flatMap fun c => (boxOf o c).parts :=
  List.flatMap_map ..

theorem filterMap_inheritance? (o : Ontology) :
    (ofOntology o).value.parts.filterMap DiagramPart.inheritance? =
      o.classes.values.filterMap fun c =>
        (c.parent.bind o.find?).map fun p => (p.name, c.name) := by
  rw [parts_ofOntology, List.filterMap_flatMap, List.filterMap_eq_flatMap_toList]
  refine List.flatMap_congr fun c _ => ?_
  rw [ClassBox.filterMap_inheritance?, boxOf]
  cases c.parent.bind o.find? <;> rfl

/-- The diagram of a document shows its ontology: the hierarchy is the one that the classes list as their
children, whether or not it has a cycle. -/
theorem shows_ofDocument (root : String) (d : Document) :
    (ofOntology (Ontology.ofDocument root d).value).value.Shows (Ontology.ofDocument root d).value := by
  have hw := Ontology.wellFormed_ofDocument root d
  generalize (Ontology.ofDocument root d).value = o at hw ⊢
  constructor
  case text_eq => rw [text, lines_eq]
  case ordered => exact hw.keyed.pairwise_utf8
  case boxes =>
    rw [parts_ofOntology, List.filterMap_flatMap]
    simp only [ClassBox.filterMap_box?]
    exact List.map_eq_flatMap.symm
  case data_owned =>
    intro c hc p hp
    exact hw.data_owned (hw.keyed.mem_values_iff.1 hc) hp
  case from_parents => exact filterMap_inheritance? o
  case to_children =>
    rw [filterMap_inheritance?, ← hw.keyed.names_parentLinks, ← hw.keyed.names_childLinks]
    exact hw.links_perm.filterMap _
  case child_there =>
    intro p hp k hk
    obtain ⟨c, hc, -⟩ := hw.child_linked (hw.keyed.mem_values_iff.1 hp) hk
    exact ⟨c, Table.mem_values_of_find? hc, hw.keyed k c hc⟩
  case associations =>
    rw [parts_ofOntology, List.filterMap_flatMap]
    simp only [ClassBox.filterMap_association?]
    rfl
  case target_there =>
    intro c hc p hp
    have hc := hw.keyed.mem_values_iff.1 hc
    obtain ⟨t, ht, hname⟩ := hw.target_named hc hp
    exact ⟨hw.object_owned hc hp, t, Table.mem_values_of_find? ht, hw.keyed _ t ht, hname⟩

/-- Two classes that are each other's parents, and a third. -/
def cyclic : Document where
  declarations := ["urn:#A", "urn:#B", "urn:#C"].map fun iri => { class? := some { iri := some iri } }
  axioms := [("urn:#A", "urn:#B"), ("urn:#B", "urn:#A"), ("urn:#C", "urn:#A")].map fun l =>
    { classes := [{ iri := some l.1 }, { iri := some l.2 }] }

example : (ofOntology (Ontology.ofDocument "" cyclic).value).value.parts =
    [.box "A" [], .inheritance "B" "A", .box "B" [], .inheritance "A" "B", .box "C" [],
      .inheritance "A" "C"] := by
  decide

end Diagram

end OntologySchema
