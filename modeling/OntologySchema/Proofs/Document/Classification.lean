import OntologySchema.Document.Basic

/-!
# What axioms and annotations are

Reading a document goes by the shape of an axiom and the kind of an annotation. Which axioms have which shape
is told here (`SubclassAxiom.shape?_eq_some_iff`, `SubclassAxiom.shape?_eq_none_iff`), and which annotation
properties are which kind (`Annotation.kind_eq_iff`): those of the three names in the namespace of RDF Schema,
by either form of their IRIs, of which the abbreviated one counts if it is there.
-/

namespace OntologySchema

namespace SubclassAxiom

variable {a : SubclassAxiom} {shape : AxiomShape}

/-- The shape is that of the axiom: two classes, or one class with restrictions of a kind and none of the
kinds before it. -/
inductive HasShape (a : SubclassAxiom) : AxiomShape → Prop
  | subclass {subject parent : Reference} (h : a.classes = [subject, parent]) :
      HasShape a (.subclass subject parent)
  | dataSome {subject : Reference} (h : a.classes = [subject]) (hsome : a.dataSome ≠ []) :
      HasShape a (.dataSome subject a.dataSome)
  | dataValue {subject : Reference} (h : a.classes = [subject]) (hnone : a.dataSome = [])
      (hsome : a.dataValue ≠ []) : HasShape a (.dataValue subject a.dataValue)
  | objectSome {subject : Reference} (h : a.classes = [subject])
      (hnone : a.dataSome = [] ∧ a.dataValue = []) (hsome : a.objectSome ≠ []) :
      HasShape a (.objectSome subject a.objectSome)
  | objectValue {subject : Reference} (h : a.classes = [subject])
      (hnone : a.dataSome = [] ∧ a.dataValue = [] ∧ a.objectSome = []) (hsome : a.objectValue ≠ []) :
      HasShape a (.objectValue subject a.objectValue)

theorem HasShape.shape?_eq (h : a.HasShape shape) : a.shape? = some shape := by
  cases h with
  | subclass h => simp [shape?, h]
  | dataSome h hsome => simp [shape?, h, hsome]
  | dataValue h hnone hsome => simp [shape?, h, hnone, hsome]
  | objectSome h hnone hsome => simp [shape?, h, hnone, hsome]
  | objectValue h hnone hsome => simp [shape?, h, hnone, hsome]

theorem shape?_eq_some_iff : a.shape? = some shape ↔ a.HasShape shape := by
  refine ⟨fun h => ?_, HasShape.shape?_eq⟩
  unfold shape? at h
  split at h
  · next hclasses =>
    cases h
    exact .subclass hclasses
  · next hclasses =>
    by_cases hds : a.dataSome = []
    · by_cases hdv : a.dataValue = []
      · by_cases hos : a.objectSome = []
        · by_cases hov : a.objectValue = []
          · simp [hds, hdv, hos, hov] at h
          · obtain rfl : _ = shape := by simpa [hds, hdv, hos, hov] using h
            exact .objectValue hclasses ⟨hds, hdv, hos⟩ hov
        · obtain rfl : _ = shape := by simpa [hds, hdv, hos] using h
          exact .objectSome hclasses ⟨hds, hdv⟩ hos
      · obtain rfl : _ = shape := by simpa [hds, hdv] using h
        exact .dataValue hclasses hds hdv
    · obtain rfl : _ = shape := by simpa [hds] using h
      exact .dataSome hclasses hds
  · cases h

/-- An axiom has no shape if it has no class or more than two, or one class and no restriction. -/
theorem shape?_eq_none_iff : a.shape? = none ↔
    a.classes = [] ∨ 2 < a.classes.length ∨ a.classes.length = 1 ∧ a.dataSome = [] ∧
      a.dataValue = [] ∧ a.objectSome = [] ∧ a.objectValue = [] := by
  unfold shape?
  match a.classes with
  | [] => simp
  | [subject] =>
    simp only [Bool.not_eq_true', List.isEmpty_eq_false_iff]
    grind
  | [subject, parent] => simp
  | subject :: parent :: other :: rest => simp

end SubclassAxiom

namespace Annotation

/-- The name of the annotation property of a kind, if it has one. -/
def propertyName? : AnnotationKind → Option String
  | .label => some "label"
  | .comment => some "comment"
  | .seeAlso => some "seeAlso"
  | .other => none

/-- The property of an annotation is the one of a name: its abbreviated form says so, or there is none and its
IRI says so. -/
def HasProperty (a : Annotation) (name : String) : Prop :=
  a.property.present.abbreviated = some ("rdfs:" ++ name) ∨
    a.property.present.abbreviated = none ∧
      a.property.present.iri = some ("http://www.w3.org/2000/01/rdf-schema#" ++ name)

theorem localName?_eq_some_iff {a : Annotation} {name : String} :
    a.localName? = some name ↔ a.HasProperty name := by
  unfold localName? HasProperty
  cases a.property.present.abbreviated <;> cases a.property.present.iri <;>
    simp [Text.afterPrefix?_eq_some_iff, rdfSchema]

/-- An annotation is of a kind with a property just when it has that property. -/
theorem kind_eq_iff {a : Annotation} {kind : AnnotationKind} {name : String}
    (hname : propertyName? kind = some name) : a.kind = kind ↔ a.HasProperty name := by
  rw [← localName?_eq_some_iff]
  unfold Annotation.kind
  cases kind with
  | other => cases hname
  | label | comment | seeAlso =>
    obtain rfl := Option.some.inj hname
    split <;> simp_all

/-- Any other annotation has none of the three properties. -/
theorem kind_eq_other_iff {a : Annotation} : a.kind = .other ↔
    ¬ a.HasProperty "label" ∧ ¬ a.HasProperty "comment" ∧ ¬ a.HasProperty "seeAlso" := by
  simp only [← localName?_eq_some_iff]
  unfold Annotation.kind
  split <;> simp_all

end Annotation

end OntologySchema
