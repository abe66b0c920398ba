import OntologySchema.Proofs.Ontology.Declarations

/-!
# What declarations and annotations do to properties and individuals

The first pass registers the properties and the individuals of the declarations that it takes in: those
without a class, and of each class the first (`entries_foldl_declare`). Afterwards the identifiers of these
are registered, and no others (`registered_declarations`).

The second pass looks for the subject of an annotation under one key after the other, and changes the entry of
the first that is registered (`entries_annotate`). The third pass changes none (`Edits.sameNames`).
-/

namespace OntologySchema

/-- The properties that a declaration declares, in the order in which they are registered. -/
def Declaration.properties (x : Declaration) : List Reference :=
  x.dataProperty?.toList ++ x.objectProperty?.toList

/-- Whether a declaration is taken in: it declares no class, or one that was not `known` before it. -/
def Declaration.isAdmitted (rv : Resolver) (known : String → Bool) (x : Declaration) : Bool :=
  x.class?.isNone || (Ontology.classIri? rv x).any fun iri => !known iri

/-- The declarations that are taken in, where some classes were known before all of them. -/
def Declaration.admitted (rv : Resolver) : (String → Bool) → List Declaration → List Declaration
  | _, [] => []
  | known, x :: xs =>
    let rest := admitted rv (fun k => known k || Ontology.classIri? rv x = some k) xs
    if x.isAdmitted rv known then x :: rest else rest

namespace Document

/-- The declarations of a document that are taken in. -/
def admitted (d : Document) : List Declaration :=
  Declaration.admitted d.resolver (fun _ => false) d.declarations

/-- The properties that a document declares. -/
def declaredProperties (d : Document) : List Reference :=
  (d.admitted.flatMap Declaration.properties).map Reference.present

/-- The individuals that a document declares. -/
def declaredIndividuals (d : Document) : List Reference :=
  (d.admitted.filterMap Declaration.individual?).map Reference.present

/-- Whether a document declares a class with an IRI. -/
def declaresClass (d : Document) (iri : String) : Bool :=
  d.declarations.any fun x => Ontology.classIri? d.resolver x = some iri

end Document

/-- The identifiers of a table are those of the references. -/
def Table.RegisteredBy {α : Type} (t : Table α) (refs : List Reference) : Prop :=
  ∀ k, t.contains k = true ↔ ∃ u ∈ refs, u.identifier? = some k

/-- Where each reference puts its identifier into the table, these are the identifiers of the table. -/
theorem Table.registeredBy_foldl {α : Type} {entry : Reference → Option (String × α)}
    (hentry : ∀ r, (entry r).map (·.1) = r.present.identifier?) (rs : List Reference) :
    (rs.foldl (fun t r => t.insertNew? (entry r)) empty).RegisteredBy (rs.map Reference.present) := by
  intro k
  rw [contains_foldl_insertNew?]
  simp [contains, hentry]

namespace Ontology

variable {rv : Resolver} {o : Ontology} {root : String} {d : Document}

/-! ### Registration -/

/-- Register properties one after the other. -/
def registerProperties (t : Table PropertyEntry) (rs : List Reference) : Table PropertyEntry :=
  rs.foldl (fun t r => t.insertNew? (entryOfProperty? (some r))) t

/-- Register individuals one after the other. -/
def registerIndividuals (t : Table Individual) (rs : List Reference) : Table Individual :=
  rs.foldl (fun t r => t.insertNew? (entryOfIndividual? (some r))) t

/-- A declaration that is taken in registers its properties and its individual. -/
theorem value_declareOthers (o : Ontology) (x : Declaration) :
    (o.declareOthers x).value =
      { o with
        properties := registerProperties o.properties x.properties
        individuals := registerIndividuals o.individuals x.individual?.toList } := by
  obtain ⟨c?, p?, q?, i?⟩ := x
  unfold declareOthers
  simp only [Logged.value_bind, value_declareProperty, value_declareIndividual]
  cases p? <;> cases q? <;> cases i? <;> rfl

theorem contains_declare (o : Ontology) (x : Declaration) :
    (declare rv o x).value.classes.contains =
      fun k => o.classes.contains k || classIri? rv x = some k := by
  funext k
  have hfind : (declare rv o x).value.classes.find? k = _ := find?_declare x k
  unfold Table.contains
  rw [hfind, Option.isSome_or]
  congr 1
  split <;> simp_all

/-- A declaration that is not taken in registers nothing. -/
theorem entries_declare (rv : Resolver) (o : Ontology) (x : Declaration) :
    (declare rv o x).value.properties =
        (if x.isAdmitted rv o.classes.contains then registerProperties o.properties x.properties
          else o.properties) ∧
      (declare rv o x).value.individuals =
        if x.isAdmitted rv o.classes.contains then registerIndividuals o.individuals x.individual?.toList
          else o.individuals := by
  unfold declare Declaration.isAdmitted classIri?
  cases x.class? with
  | none => simp [value_declareOthers]
  | some r =>
    rw [Logged.value_bind, value_canonical, Option.bind_some]
    cases rv.canonical? r.present with
    | none => simp
    | some iri =>
      dsimp only
      split
      · next hknown => simp [hknown]
      · next hknown => simp [hknown, value_declareOthers, Ontology.insert]

/-- The declarations that are taken in register their properties and individuals, one after the other. -/
theorem entries_foldl_declare (rv : Resolver) (xs : List Declaration) (o : Ontology) :
    let admitted := Declaration.admitted rv o.classes.contains xs
    let o' := xs.foldl (fun o x => (declare rv o x).value) o
    o'.properties = registerProperties o.properties (admitted.flatMap Declaration.properties) ∧
      o'.individuals = registerIndividuals o.individuals (admitted.filterMap Declaration.individual?) := by
  induction xs generalizing o with
  | nil => exact ⟨rfl, rfl⟩
  | cons x xs ih =>
    obtain ⟨hproperties, hindividuals⟩ := ih (declare rv o x).value
    obtain ⟨hproperties', hindividuals'⟩ := entries_declare rv o x
    dsimp only [List.foldl_cons]
    rw [hproperties, hindividuals, hproperties', hindividuals', contains_declare,
      Declaration.admitted]
    split
    · constructor
      · simp only [registerProperties, List.flatMap_cons, List.foldl_append]
      · rw [List.filterMap_cons]
        cases x.individual? <;> rfl
    · exact ⟨rfl, rfl⟩

/-- After the first pass the declared identifiers are registered, and no others. -/
theorem registered_declarations (root : String) (d : Document) :
    let o := d.declarations.foldl (fun o x => (declare d.resolver o x).value)
      { prefixes := d.prefixes, root }
    o.properties.RegisteredBy d.declaredProperties ∧
      o.individuals.RegisteredBy d.declaredIndividuals := by
  obtain ⟨hproperties, hindividuals⟩ :=
    entries_foldl_declare d.resolver d.declarations { prefixes := d.prefixes, root }
  dsimp only
  rw [hproperties, hindividuals]
  constructor
  · refine Table.registeredBy_foldl (fun r => ?_) _
    simp [entryOfProperty?, Function.comp_def]
  · refine Table.registeredBy_foldl (fun r => ?_) _
    simp [entryOfIndividual?, Function.comp_def]

/-- Before the axioms the classes are those that are declared. -/
theorem contains_described (root : String) (d : Document) :
    (described root d).classes.contains = d.declaresClass := by
  funext k
  have hfind : (described root d).classes.find? k = _ := find?_described root d k
  rw [Table.contains, hfind, Document.declaresClass, Bool.eq_iff_iff, List.any_eq_true]
  split <;> simp_all

/-! ### Annotations of entries -/

/-- What an annotation makes of the property that it is about. -/
def annotatedProperty (a : Annotation) (e : PropertyEntry) : PropertyEntry :=
  match a.kind with
  | .label => { e with name := Naming.clean (Text.trim a.literal) }
  | .comment => { e with comments := e.comments ++ [Text.trim a.literal] }
  | .seeAlso => e
  | .other => e

/-- What an annotation makes of the individual that it is about. -/
def annotatedIndividual (a : Annotation) (e : Individual) : Individual :=
  match a.kind with
  | .seeAlso => { e with type := some (Text.trim a.literal) }
  | .label => e
  | .comment => e
  | .other => e

/-- What is changed for an annotation is the class that is its subject, or else one property. -/
theorem entries_modifySubject? (o : Ontology) (a : Annotation) (onClass : OntClass → OntClass)
    (onProperty : PropertyEntry → PropertyEntry) :
    ((o.modifySubject? rv a onClass onProperty).getD o).properties =
        (if (rv.canonical? a.subject).any o.classes.contains then o.properties
          else o.properties.modifyFirst (rv.lookupKeys a.subject) onProperty) ∧
      ((o.modifySubject? rv a onClass onProperty).getD o).individuals = o.individuals := by
  have hproperty : (o.modifyProperty? (rv.lookupKeys a.subject) onProperty).getD o =
      { o with properties := o.properties.modifyFirst (rv.lookupKeys a.subject) onProperty } := by
    unfold modifyProperty? Table.modifyFirst
    cases (rv.lookupKeys a.subject).find? o.properties.contains <;> rfl
  unfold modifySubject?
  cases rv.canonical? a.subject with
  | none =>
    dsimp only [Option.filter_none]
    rw [hproperty]
    exact ⟨rfl, rfl⟩
  | some iri =>
    rw [Option.filter_some]
    by_cases hclass : o.classes.contains iri = true
    · rw [if_pos hclass]
      simp [hclass, modify]
    · rw [if_neg hclass]
      dsimp only
      rw [hproperty]
      simp [hclass]

theorem value_annotate (o : Ontology) (a : Annotation) :
    (annotate rv o a).value =
      match a.kind with
      | .label =>
        (o.modifySubject? rv a ({ · with name := Naming.clean (Text.trim a.literal) })
          ({ · with name := Naming.clean (Text.trim a.literal) })).getD o
      | .comment =>
        (o.modifySubject? rv a (fun c => { c with comments := c.comments ++ [Text.trim a.literal] })
          (fun e => { e with comments := e.comments ++ [Text.trim a.literal] })).getD o
      | .seeAlso =>
        { o with
          individuals := o.individuals.modifyFirst (rv.lookupKeys a.subject)
            ({ · with type := some (Text.trim a.literal) }) }
      | .other => o := by
  unfold annotate annotate?
  cases a.kind with
  | label =>
    dsimp only
    cases o.modifySubject? rv a _ _ <;> rfl
  | comment =>
    dsimp only
    cases o.modifySubject? rv a _ _ <;> rfl
  | seeAlso =>
    dsimp only [Table.modifyFirst]
    cases (rv.lookupKeys a.subject).find? o.individuals.contains <;> rfl
  | other => rfl

/-- An annotation whose subject is no class changes the property under the first key that is registered, and
the individual under the first key that is registered. -/
theorem entries_annotate (rv : Resolver) (o : Ontology) (a : Annotation) :
    (annotate rv o a).value.properties =
        (if (rv.canonical? a.subject).any o.classes.contains then o.properties
          else o.properties.modifyFirst (rv.lookupKeys a.subject) (annotatedProperty a)) ∧
      (annotate rv o a).value.individuals =
        o.individuals.modifyFirst (rv.lookupKeys a.subject) (annotatedIndividual a) := by
  rw [value_annotate]
  unfold annotatedProperty annotatedIndividual
  cases a.kind with
  | label =>
    dsimp only
    rw [Table.modifyFirst_id]
    exact entries_modifySubject? o a _ _
  | comment =>
    dsimp only
    rw [Table.modifyFirst_id]
    exact entries_modifySubject? o a _ _
  | seeAlso =>
    dsimp only
    rw [Table.modifyFirst_id, ite_self]
    exact ⟨rfl, rfl⟩
  | other =>
    dsimp only
    rw [Table.modifyFirst_id, Table.modifyFirst_id, ite_self]
    exact ⟨rfl, rfl⟩

theorem contains_annotate (rv : Resolver) (o : Ontology) (a : Annotation) :
    (annotate rv o a).value.classes.contains = o.classes.contains := by
  funext k
  have hfind : (annotate rv o a).value.classes.find? k = _ := find?_annotate a k
  rw [Table.contains, hfind]
  split
  · rw [Option.isSome_map]
    rfl
  · rfl

theorem contains_properties_annotate (rv : Resolver) (o : Ontology) (a : Annotation) :
    (annotate rv o a).value.properties.contains = o.properties.contains := by
  funext k
  rw [(entries_annotate rv o a).1]
  split
  · rfl
  · exact Table.contains_modifyFirst ..

end Ontology

end OntologySchema
