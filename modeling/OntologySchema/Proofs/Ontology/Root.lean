import OntologySchema.Proofs.Ontology.Accounting
import OntologySchema.Proofs.Ontology.Entries
import OntologySchema.Proofs.Prefixes

/-!
# The designation of the root

A document is read without regard to the root that is designated: the designation is noted with the prefixes,
and no pass looks at what is noted. So the ontologies of a document for two designations differ in nothing else
(`ofDocument_withRoot`).

Which class is the root is asked afterwards. A class answers to its IRI, to its name and to the one
abbreviation that is computed for its IRI. If another abbreviated IRI is designated, which expands to the same
IRI, no class is the root (`isRoot_withRoot_of_expand`).
-/

namespace OntologySchema.Ontology

/-- The ontology with other prefixes and another root noted. -/
def marked (o : Ontology) (t : Prefixes) (root : String) : Ontology := { o with prefixes := t, root }

/-- The ontology with another root designated. -/
def withRoot (o : Ontology) (root : String) : Ontology := { o with root }

/-! ### The three passes -/

section Passes

variable (rv : Resolver) (t : Prefixes) (root : String) (o : Ontology)

variable {t root} in
/-- Steps that do not look at what is noted make a run that does not. -/
theorem foldl_marked {α : Type} {step : Ontology → α → Ontology}
    (h : ∀ o x, step (o.marked t root) x = (step o x).marked t root) (xs : List α) (o : Ontology) :
    xs.foldl step (o.marked t root) = (xs.foldl step o).marked t root := by
  induction xs generalizing o with
  | nil => rfl
  | cons x xs ih => rw [List.foldl_cons, h, ih, List.foldl_cons]

theorem declare_marked (x : Declaration) :
    (declare rv (o.marked t root) x).value = (declare rv o x).value.marked t root := by
  unfold declare
  cases x.class? with
  | none =>
    rw [value_declareOthers, value_declareOthers]
    rfl
  | some r =>
    rw [Logged.value_bind, Logged.value_bind]
    cases (canonical rv r.present).value with
    | none => rfl
    | some iri =>
      dsimp only
      by_cases hin : o.classes.contains iri = true
      · have hin' : (o.marked t root).classes.contains iri = true := hin
        rw [if_pos hin, if_pos hin']
        rfl
      · have hin' : ¬ (o.marked t root).classes.contains iri = true := hin
        rw [if_neg hin, if_neg hin', value_declareOthers, value_declareOthers]
        rfl

theorem annotate_marked (a : Annotation) :
    (annotate rv (o.marked t root) a).value = (annotate rv o a).value.marked t root := by
  have hsubject : ∀ onClass onProperty,
      ((o.marked t root).modifySubject? rv a onClass onProperty).getD (o.marked t root) =
        ((o.modifySubject? rv a onClass onProperty).getD o).marked t root := by
    intro onClass onProperty
    unfold modifySubject? modifyProperty?
    dsimp only [marked]
    split
    · rfl
    · cases (rv.lookupKeys a.subject).find? o.properties.contains <;> rfl
  rw [value_annotate, value_annotate]
  cases a.kind with
  | label => exact hsubject _ _
  | comment => exact hsubject _ _
  | seeAlso => rfl
  | other => rfl

theorem attachParent_marked (subject parent : Reference) :
    ((o.marked t root).attachParent rv subject parent).value =
      (o.attachParent rv subject parent).value.marked t root := by
  by_cases htop : DenotesTop rv parent
  · rw [attachParent_of_top htop, attachParent_of_top htop]
    rfl
  · have hlinkable : ∀ {child parentIri}, Linkable rv o subject parent child parentIri ↔
        Linkable rv (o.marked t root) subject parent child parentIri :=
      ⟨fun ⟨h₁, h₂, h₃, h₄, h₅, h₆⟩ => ⟨h₁, h₂, h₃, h₄, h₅, h₆⟩,
        fun ⟨h₁, h₂, h₃, h₄, h₅, h₆⟩ => ⟨h₁, h₂, h₃, h₄, h₅, h₆⟩⟩
    by_cases hlink : ∃ child parentIri, Linkable rv o subject parent child parentIri
    · obtain ⟨child, parentIri, h⟩ := hlink
      rw [attachParent_of_linkable htop h, attachParent_of_linkable htop (hlinkable.1 h)]
      rfl
    · have hlink' := hlink
      simp only [hlinkable] at hlink'
      obtain ⟨_, -, hattach⟩ := attachParent_of_not_linkable htop hlink
      obtain ⟨_, -, hattach'⟩ := attachParent_of_not_linkable htop hlink'
      rw [hattach, hattach']

theorem attach_marked (a : SubclassAxiom) :
    (attach rv (o.marked t root) a).value = (attach rv o a).value.marked t root := by
  have hlink : withLink rv (o.marked t root) a = (withLink rv o a).marked t root := by
    unfold withLink
    split
    · exact attachParent_marked rv t root o _ _
    · rfl
  have hgains : gains rv (o.marked t root) = gains rv o := gains_eq ⟨rfl, rfl, fun _ => rfl⟩
  rw [value_attach, value_attach, hgains, hlink, foldl_marked fun _ _ => rfl]

end Passes

/-- The passes over a document, from an empty ontology. -/
def unmarked (d : Document) : Ontology :=
  d.axioms.foldl (fun o a => (attach d.resolver o a).value)
    (d.annotations.foldl (fun o a => (annotate d.resolver o a).value)
      (d.declarations.foldl (fun o x => (declare d.resolver o x).value) {}))

/-- The prefixes and the root could be noted as well when all else is done. -/
theorem ofDocument_marked (root : String) (d : Document) :
    (ofDocument root d).value = (unmarked d).marked d.prefixes root := by
  rw [value_ofDocument, described, unmarked,
    ← foldl_marked (attach_marked d.resolver d.prefixes root),
    ← foldl_marked (annotate_marked d.resolver d.prefixes root),
    ← foldl_marked (declare_marked d.resolver d.prefixes root)]
  rfl

theorem prefixes_ofDocument (root : String) (d : Document) :
    (ofDocument root d).value.prefixes = d.prefixes := by
  rw [ofDocument_marked]
  rfl

/-- A document has the same ontology for every root but for the root. -/
theorem ofDocument_withRoot (root root' : String) (d : Document) :
    (ofDocument root' d).value = (ofDocument root d).value.withRoot root' := by
  rw [ofDocument_marked, ofDocument_marked]
  rfl

/-! ### Which class answers -/

variable {o : Ontology} {short iri : String} {c : OntClass}

/-- `short` and `iri` are no display names of the class, and if it is not the class of `iri` they are none of
its spellings. -/
structure Unclaimed (o : Ontology) (short iri : String) (c : OntClass) : Prop where
  name_ne : c.name ≠ short ∧ c.name ≠ iri
  spelling_ne : c.iri ≠ iri → c.iri ≠ short ∧ o.prefixes.abbreviate c.iri ≠ short ∧
    o.prefixes.abbreviate c.iri ≠ iri

/-- The class of an IRI answers to it, unless it is empty. -/
theorem isRoot_withRoot_iri (h : o.Unclaimed short iri c) (hne : iri ≠ "") :
    (o.withRoot iri).isRoot c = decide (c.iri = iri) := by
  have hname := h.name_ne.2
  by_cases hc : c.iri = iri
  · simp [isRoot, withRoot, hne, hc]
  · simp [isRoot, withRoot, hc, hname, (h.spelling_ne hc).2.2]

/-- The class of an IRI answers to an abbreviation only if it is the one that is computed for it. -/
theorem isRoot_withRoot_of_expand (h : o.Unclaimed short iri c)
    (hexpand : o.prefixes.expand short = .ok iri) :
    (o.withRoot short).isRoot c =
      decide (c.iri = iri ∧ (short = iri ∨ o.prefixes.abbreviate iri = short)) := by
  have hne := Prefixes.ne_empty_of_expand hexpand
  have hname := h.name_ne.1
  by_cases hc : c.iri = iri
  · simp [isRoot, withRoot, hne, hc, hname, eq_comm (a := iri)]
  · have hspelling := h.spelling_ne hc
    simp [isRoot, withRoot, hc, hname, hspelling.1, hspelling.2.1]

end OntologySchema.Ontology
