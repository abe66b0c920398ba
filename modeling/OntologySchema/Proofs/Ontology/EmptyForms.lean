import OntologySchema.Proofs.Ontology.Faithful

/-!
# Empty attributes

An attribute of a reference that is empty counts as one that is not there, and the same holds of the subject
of an annotation and of the ontology's IRI. So a document has the same ontology when any of them are left out
(`ofDocument_emptyDropped`).

The document's own base is different. It is preferred to the ontology's IRI before it is looked at, so that an
empty one still hides that IRI, and relative IRIs have no base. Left out, it hides nothing
(`emptyBase_hides_ontologyIri`).
-/

namespace OntologySchema

/-- An attribute as it was, or left out if it was empty. -/
inductive Dropped : Option String → Option String → Prop
  | same {s : Option String} : Dropped s s
  | empty : Dropped (some "") none

/-- The reference with some of its empty forms left out. -/
structure Reference.EmptyDropped (r r' : Reference) : Prop where
  iri : Dropped r.iri r'.iri
  abbreviated : Dropped r.abbreviated r'.abbreviated

/-- Empty forms are left out of any references. -/
def Respelling.droppingEmpty : Respelling where
  ofClass := Reference.EmptyDropped
  ofProperty := Reference.EmptyDropped
  ofIndividual := Reference.EmptyDropped
  ofDatatype := Reference.EmptyDropped
  ofSubject := Reference.EmptyDropped

/-- The annotation with some empty forms of its property and its subject left out. -/
structure Annotation.EmptyDropped (a a' : Annotation) : Prop where
  property : a.property.EmptyDropped a'.property
  writtenSubject : a.writtenSubject.EmptyDropped a'.writtenSubject
  literal : a.literal = a'.literal

/-- The document with some of its empty attributes left out: the ontology's IRI, its own base and the forms
of references. -/
structure Document.EmptyDropped (d d' : Document) : Prop where
  ontologyIri : Dropped d.ontologyIri d'.ontologyIri
  xmlBase : Dropped d.xmlBase d'.xmlBase
  prefixDeclarations : d.prefixDeclarations = d'.prefixDeclarations
  declarations :
    List.Forall₂ (Declaration.Like .droppingEmpty) d.declarations d'.declarations
  axioms : List.Forall₂ (SubclassAxiom.Like .droppingEmpty) d.axioms d'.axioms
  annotations : List.Forall₂ Annotation.EmptyDropped d.annotations d'.annotations

/-! ### References and annotations -/

theorem Dropped.nonempty?_eq {s s' : Option String} (h : Dropped s s') :
    nonempty? s = nonempty? s' := by
  cases h <;> rfl

/-- What is empty is so without the blanks around it. -/
theorem Dropped.trim {s s' : Option String} (h : Dropped s s') :
    Dropped (s.map Text.trim) (s'.map Text.trim) := by
  cases h with
  | same => exact .same
  | empty => exact .empty

theorem Reference.EmptyDropped.present_eq {r r' : Reference} (h : r.EmptyDropped r') :
    r.present = r'.present := by
  rw [Reference.present, h.iri.nonempty?_eq, h.abbreviated.nonempty?_eq, Reference.present]

theorem Reference.EmptyDropped.refl (r : Reference) : r.EmptyDropped r := ⟨.same, .same⟩

theorem Annotation.EmptyDropped.like {a a' : Annotation} (h : a.EmptyDropped a') :
    a.Like .droppingEmpty a' where
  kind := by
    unfold Annotation.kind Annotation.localName?
    rw [h.property.present_eq]
  literal := h.literal
  writtenSubject := h.writtenSubject

namespace Ontology

theorem faithful_droppingEmpty (rv : Resolver) : Respelling.droppingEmpty.Faithful rv where
  canonical h := by rw [h.present_eq]
  top h := by rw [h.present_eq]
  property h := h.present_eq
  individual h := h.present_eq
  datatype h := h.present_eq
  subject h := Reference.EmptyDropped.present_eq ⟨h.iri.trim, h.abbreviated.trim⟩

/-! ### Documents -/

variable {d d' : Document}

/-- The base stays if the document's own base is left as it is, or if there is no other to take its place. -/
theorem base?_emptyDropped (h : d.EmptyDropped d')
    (hbase : d'.xmlBase = d.xmlBase ∨ nonempty? d.ontologyIri = none) : d.base? = d'.base? := by
  have hiri := h.ontologyIri.nonempty?_eq
  have hown := h.xmlBase
  unfold Document.base?
  generalize d.xmlBase = base at hown hbase
  generalize d'.xmlBase = base' at hown hbase
  cases hown with
  | same =>
    cases base with
    | none => exact hiri
    | some base => rfl
  | empty =>
    -- the empty base is gone, and what it was hiding is empty too
    obtain hsame | hnone := hbase
    · cases hsame
    · exact (hiri.symm.trans hnone).symm

/-- Documents with one base and the same content have the same ontology. -/
theorem ofDocument_emptyDropped_of_base (h : d.EmptyDropped d')
    (hbase : d'.xmlBase = d.xmlBase ∨ nonempty? d.ontologyIri = none) (root : String) :
    ofDocument root d' = ofDocument root d := by
  refine (ofDocument_eq_of_faithful (faithful_droppingEmpty d.resolver) ⟨?_, h.declarations, h.axioms,
    h.annotations.imp fun _ _ ha => ha.like⟩ root).symm
  unfold Document.resolver Document.prefixes
  rw [base?_emptyDropped h hbase, h.prefixDeclarations]

/-- Empty attributes may be left out: all but the document's own base never matter, and that one does not
either unless it hides an IRI of the ontology. -/
theorem ofDocument_emptyDropped (h : d.EmptyDropped d') (root : String) :
    ofDocument root d' = ofDocument root { d with xmlBase := d'.xmlBase } ∧
      (d'.xmlBase = d.xmlBase ∨ nonempty? d.ontologyIri = none →
        ofDocument root d' = ofDocument root d) := by
  have hrest : Document.EmptyDropped { d with xmlBase := d'.xmlBase } d' :=
    { h with xmlBase := .same }
  exact ⟨ofDocument_emptyDropped_of_base hrest (.inl rfl) root,
    fun hbase => ofDocument_emptyDropped_of_base h hbase root⟩

/-- A class with a label and a data property, with `empty` in the place of attributes that say nothing. -/
def withEmpty (empty : Option String) : Document where
  ontologyIri := empty
  xmlBase := empty
  prefixDeclarations := [{ name := "ex", iri := "urn:/" }]
  declarations :=
    [{ class? := some { iri := empty, abbreviated := some "ex:A" } },
     { dataProperty? := some { iri := some "#p", abbreviated := empty } }]
  axioms :=
    [{ classes := [{ iri := some "urn:/A", abbreviated := empty }]
       dataValue := [{ property := { iri := some "#p", abbreviated := empty }, literal := "string" }] }]
  annotations :=
    [{ property := { iri := empty, abbreviated := some "rdfs:label" }
       writtenSubject := { iri := empty, abbreviated := some "ex:A" }
       literal := "Label" }]

theorem emptyDropped_withEmpty : (withEmpty (some "")).EmptyDropped (withEmpty none) := by
  refine ⟨.empty, .empty, rfl, ?_, ?_, ?_⟩
  · exact .cons ⟨.some ⟨.empty, .same⟩, .none, .none, .none⟩
      (.cons ⟨.none, .none, .some ⟨.same, .empty⟩, .none⟩ .nil)
  · exact .cons ⟨.cons ⟨.same, .empty⟩ .nil, .nil, .cons ⟨⟨.same, .empty⟩, rfl⟩ .nil, .nil, .nil⟩ .nil
  · exact .cons ⟨⟨.empty, .same⟩, ⟨.empty, .same⟩, rfl⟩ .nil

theorem ofDocument_emptyDropped_withEmpty :
    (withEmpty (some "")).EmptyDropped (withEmpty none) ∧
      (nonempty? (withEmpty (some "")).ontologyIri = none) ∧
      ofDocument "" (withEmpty none) = ofDocument "" (withEmpty (some "")) ∧
      ((ofDocument "" (withEmpty none)).value.find? "urn:/A").map (·.name) = some "Label" := by
  have hresult := (ofDocument_emptyDropped emptyDropped_withEmpty "").2 (.inr rfl)
  exact ⟨emptyDropped_withEmpty, rfl, hresult, by decide⟩

/-- A class in relative spelling, in a document with an IRI and a base of its own. -/
def underBase (base : Option String) : Document where
  ontologyIri := some "http://example.com/onto"
  xmlBase := base
  declarations := [{ class? := some { iri := some "#A" } }]

/-- An empty base of the document's own keeps relative IRIs from being put after the ontology's IRI. Where it
is left out they are. -/
theorem emptyBase_hides_ontologyIri :
    (underBase (some "")).EmptyDropped (underBase none) ∧
      (ofDocument "" (underBase (some ""))).value.classes.keys = ["#A"] ∧
      (ofDocument "" (underBase none)).value.classes.keys = ["http://example.com/onto#A"] := by
  refine ⟨⟨.same, .empty, rfl, ?_, .nil, .nil⟩, by decide, by decide⟩
  exact .cons ⟨.some (.refl _), .none, .none, .none⟩ .nil

end Ontology

end OntologySchema
