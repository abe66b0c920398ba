import Mathlib.Data.Option.Basic
import OntologySchema.Ontology.OfDocument

/-!
# What declarations and annotations do to the classes

The first pass makes the classes: one for each canonical IRI that a declaration gives, whatever the order
of the declarations and however often one of them is repeated (`find?_declarations`). The second pass
changes names and comments: each class takes in the annotations whose subject it is, in their order
(`find?_annotations`). Neither pass links classes or gives them properties.
-/

namespace OntologySchema.Ontology

variable {rv : Resolver} {o : Ontology}

@[simp] theorem find?_insert (o : Ontology) (c : OntClass) (k : String) :
    (o.insert c).find? k = if k = c.iri then some c else o.find? k := Table.find?_insert ..

@[simp] theorem find?_modify (o : Ontology) (iri : String) (f : OntClass → OntClass) (k : String) :
    (o.modify iri f).find? k = if k = iri then (o.find? k).map f else o.find? k :=
  Table.find?_modify ..

theorem contains_iff {k : String} : o.classes.contains k = true ↔ ∃ c, o.find? k = some c :=
  Table.contains_iff

@[simp] theorem value_canonical (r : Reference) : (canonical rv r).value = rv.canonical? r := by
  unfold canonical
  split <;> simp_all

/-! ### Declarations -/

/-- The canonical IRI of the class that a declaration declares. -/
def classIri? (rv : Resolver) (d : Declaration) : Option String :=
  d.class?.bind fun r => rv.canonical? r.present

/-- A class as its declaration leaves it. -/
def newClass (iri : String) : OntClass := { iri, name := Naming.clean (Naming.lastSegment iri) }

@[simp] theorem classes_declareProperty (o : Ontology) (r : Option Reference) :
    (o.declareProperty r).value.classes = o.classes := by
  unfold declareProperty
  split
  · rfl
  · split
    · rfl
    · split <;> rfl

@[simp] theorem classes_declareIndividual (o : Ontology) (r : Option Reference) :
    (o.declareIndividual r).value.classes = o.classes := by
  unfold declareIndividual
  split
  · rfl
  · split
    · rfl
    · split <;> rfl

@[simp] theorem find?_declareOthers (o : Ontology) (d : Declaration) (k : String) :
    (o.declareOthers d).value.find? k = o.find? k := by
  simp [declareOthers, find?]

/-- A declaration makes a class at its canonical IRI, unless one is there. -/
theorem find?_declare (d : Declaration) (k : String) :
    (declare rv o d).value.find? k =
      (o.find? k).or (if classIri? rv d = some k then some (newClass k) else none) := by
  unfold declare classIri?
  cases d.class? with
  | none => simp
  | some r =>
    rw [Logged.value_bind, value_canonical, Option.bind_some]
    split
    · next hr => simp [hr]
    · next iri hr =>
      rw [hr]
      split
      · next hin =>
        obtain ⟨c, hc⟩ := contains_iff.1 hin
        by_cases h : iri = k
        · subst h
          simp [hc]
        · simp [h]
      · next hin =>
        have hc : o.find? iri = none := by
          simpa [contains_iff, Option.eq_none_iff_forall_ne_some] using hin
        by_cases h : iri = k
        · subst h
          simp [hc, newClass]
        · simp [h, Ne.symm h]

theorem find?_foldl_declare (k : String) : ∀ (ds : List Declaration) (o : Ontology),
    (ds.foldl (fun o d => (declare rv o d).value) o).find? k =
      (o.find? k).or (if ∃ d ∈ ds, classIri? rv d = some k then some (newClass k) else none)
  | [], o => by simp
  | d :: ds, o => by
    rw [List.foldl_cons, find?_foldl_declare k ds, find?_declare, Option.or_assoc]
    congr 1
    by_cases h : classIri? rv d = some k <;> simp [h]

/-- The classes after the first pass. -/
theorem find?_declarations (k : String) (ds : List Declaration) (empty : Ontology)
    (he : empty.classes = .empty) :
    (ds.foldl (fun o d => (declare rv o d).value) empty).find? k =
      if ∃ d ∈ ds, classIri? rv d = some k then some (newClass k) else none := by
  rw [find?_foldl_declare, find?, he]
  simp

/-! ### Annotations -/

/-- What an annotation makes of the class that it is about. -/
def annotated (a : Annotation) (c : OntClass) : OntClass :=
  match a.kind with
  | .label => { c with name := Naming.clean (Text.trim a.literal) }
  | .comment => { c with comments := c.comments ++ [Text.trim a.literal] }
  | .seeAlso => c
  | .other => c

/-- Annotations leave links and properties alone. -/
theorem exists_foldl_annotated (as : List Annotation) (c : OntClass) :
    ∃ name comments, as.foldl (fun c a => annotated a c) c = { c with name, comments } := by
  induction as generalizing c with
  | nil => exact ⟨c.name, c.comments, rfl⟩
  | cons a as ih =>
    obtain ⟨name, comments, h⟩ := ih (annotated a c)
    refine ⟨name, comments, ?_⟩
    rw [List.foldl_cons, h]
    unfold annotated
    split <;> rfl

/-- An annotation changes a name or a comment of its subject, if that is a class. -/
theorem find?_modifySubject? (a : Annotation) (onClass : OntClass → OntClass)
    (onProperty : PropertyEntry → PropertyEntry) (k : String) :
    ((o.modifySubject? rv a onClass onProperty).getD o).find? k =
      if rv.canonical? a.subject = some k then (o.find? k).map onClass else o.find? k := by
  unfold modifySubject?
  split
  · next iri h =>
    obtain ⟨h, -⟩ := Option.filter_eq_some_iff.1 h
    rw [h, Option.getD_some, find?_modify]
    by_cases hk : k = iri
    · simp [hk]
    · simp [hk, Ne.symm hk]
  · next h =>
    have hclasses : ((o.modifyProperty? (rv.lookupKeys a.subject) onProperty).getD o).find? k =
        o.find? k := by
      unfold modifyProperty?
      cases (rv.lookupKeys a.subject).find? o.properties.contains <;> rfl
    rw [hclasses]
    split
    · next hs =>
      have hnone : o.find? k = none := by
        simpa [hs, contains_iff, Option.eq_none_iff_forall_ne_some] using h
      simp [hnone]
    · rfl

theorem find?_annotate (a : Annotation) (k : String) :
    (annotate rv o a).value.find? k =
      if rv.canonical? a.subject = some k then (o.find? k).map (annotated a) else o.find? k := by
  unfold annotate annotate? annotated
  cases a.kind with
  | label =>
    dsimp only
    rw [← find?_modifySubject? a _ ({ · with name := Naming.clean (Text.trim a.literal) })]
    cases o.modifySubject? rv a _ _ <;> rfl
  | comment =>
    dsimp only
    rw [← find?_modifySubject? a _
      (fun p => { p with comments := p.comments ++ [Text.trim a.literal] })]
    cases o.modifySubject? rv a _ _ <;> rfl
  | seeAlso =>
    cases (rv.lookupKeys a.subject).find? o.individuals.contains <;> simp [find?]
  | other => simp

/-- The classes after the second pass: each has taken in the annotations that are about it. -/
theorem find?_annotations (k : String) : ∀ (as : List Annotation) (o : Ontology),
    (as.foldl (fun o a => (annotate rv o a).value) o).find? k =
      (o.find? k).map fun c =>
        (as.filter fun a => rv.canonical? a.subject = some k).foldl (fun c a => annotated a c) c
  | [], o => by simp
  | a :: as, o => by
    rw [List.foldl_cons, find?_annotations k as, find?_annotate]
    by_cases h : rv.canonical? a.subject = some k <;> simp [h, Function.comp_def]

end OntologySchema.Ontology
