import OntologySchema.Proofs.Ontology.WellFormed
import OntologySchema.Proofs.Table

/-!
# The order of declarations

A declaration that declares one entity puts an entry into one of the three tables of an ontology, unless
the table has one at its key already (`value_declare`). Which declaration of an entity comes first does not
matter to a class or an individual, of which an entry says nothing but its key. It matters to a property:
an identifier is looked up as it is written, but the name that it suggests depends on whether it is meant as
an IRI or as an abbreviation. Where these names agree the order of declarations has no effect on the
ontology (`described_eq_of_perm`).
-/

namespace OntologySchema

/-- All that a declaration declares. -/
def Declaration.references (x : Declaration) : List Reference :=
  x.class?.toList ++ x.objectProperty?.toList ++ x.dataProperty?.toList ++ x.individual?.toList

/-- The property that a declaration declares, of either kind. -/
def Declaration.property? (x : Declaration) : Option Reference := x.objectProperty? <|> x.dataProperty?

/-- The name that the identifier of a property suggests. -/
def Reference.suggestedName (r : Reference) : String := Naming.clean r.present.derivedName

/-- Each declaration declares one entity, and each property is declared in one form. -/
structure Document.DeclaresSimply (d : Document) : Prop where
  single : ∀ x ∈ d.declarations, x.references.length = 1
  oneForm : ∀ x ∈ d.declarations, ∀ r ∈ x.property?,
    r.present.iri = none ∨ r.present.abbreviated = none

/-- What is declared as the IRI of a property and as the abbreviation of a property suggests the same name
either way. -/
def Document.NamesAgree (d : Document) : Prop :=
  ∀ x ∈ d.declarations, ∀ y ∈ d.declarations, ∀ r ∈ x.property?, ∀ r' ∈ y.property?,
    ∀ identifier ∈ r.present.iri, identifier ∈ r'.present.abbreviated →
      r.suggestedName = r'.suggestedName

instance (d : Document) : Decidable d.NamesAgree := by
  unfold Document.NamesAgree
  infer_instance

namespace Ontology

variable {rv : Resolver} {o : Ontology} {x y : Declaration}

/-! ### The entries of a declaration -/

/-- The entry of a declared class. -/
def entryOfClass? (rv : Resolver) (x : Declaration) : Option (String × OntClass) :=
  (classIri? rv x).map fun iri => (iri, newClass iri)

/-- The entry of a declared property. -/
def entryOfProperty? (r : Option Reference) : Option (String × PropertyEntry) :=
  r.bind fun r => r.present.identifier?.map fun identifier =>
    (identifier, { iri := identifier, name := r.suggestedName })

/-- The entry of a declared individual. -/
def entryOfIndividual? (r : Option Reference) : Option (String × Individual) :=
  (r.bind fun r => r.present.identifier?).map fun identifier => (identifier, { iri := identifier })

theorem value_declareProperty (o : Ontology) (r : Option Reference) :
    (o.declareProperty r).value =
      { o with properties := o.properties.insertNew? (entryOfProperty? r) } := by
  cases r with
  | none => rfl
  | some r =>
    dsimp only [declareProperty, entryOfProperty?, Option.bind_some]
    cases r.present.identifier? with
    | none => rfl
    | some identifier =>
      dsimp only [Option.map_some, Table.insertNew?]
      split <;> rfl

theorem value_declareIndividual (o : Ontology) (r : Option Reference) :
    (o.declareIndividual r).value =
      { o with individuals := o.individuals.insertNew? (entryOfIndividual? r) } := by
  cases r with
  | none => rfl
  | some r =>
    dsimp only [declareIndividual, entryOfIndividual?, Option.bind_some]
    cases r.present.identifier? with
    | none => rfl
    | some identifier =>
      dsimp only [Option.map_some, Table.insertNew?]
      split <;> rfl

/-- A declaration of one entity puts in its entry. -/
theorem value_declare (hx : x.references.length = 1) (o : Ontology) :
    (declare rv o x).value =
      { o with
        classes := o.classes.insertNew? (entryOfClass? rv x)
        properties := o.properties.insertNew? (entryOfProperty? x.property?)
        individuals := o.individuals.insertNew? (entryOfIndividual? x.individual?) } := by
  obtain ⟨c?, p?, q?, i?⟩ := x
  cases c? with
  | none =>
    have hproperty : p? = none ∨ q? = none := by
      cases p? <;> cases q? <;> simp_all [Declaration.references]
    unfold declare declareOthers
    simp only [Logged.value_bind, value_declareProperty, value_declareIndividual]
    rcases hproperty with rfl | rfl
    · rfl
    · cases p? <;> rfl
  | some r =>
    obtain ⟨rfl, rfl, rfl⟩ : p? = none ∧ q? = none ∧ i? = none := by
      cases p? <;> cases q? <;> cases i? <;> simp_all [Declaration.references]
    unfold declare entryOfClass? classIri? Table.insertNew?
    simp only [Logged.value_bind, value_canonical, Option.bind_some]
    cases rv.canonical? r.present with
    | none => rfl
    | some iri =>
      dsimp only [Option.map_some]
      split
      · rfl
      · rfl

/-! ### Declarations in another order -/

theorem declare_comm (hx : x.references.length = 1) (hy : y.references.length = 1)
    (h : Table.Agree (entryOfProperty? x.property?) (entryOfProperty? y.property?)) (o : Ontology) :
    (declare rv (declare rv o x).value y).value = (declare rv (declare rv o y).value x).value := by
  have hclass : Table.Agree (entryOfClass? rv x) (entryOfClass? rv y) := Table.agree_of_keys newClass _ _
  have hindividual : Table.Agree (entryOfIndividual? x.individual?) (entryOfIndividual? y.individual?) :=
    Table.agree_of_keys (fun iri => ({ iri } : Individual)) _ _
  rw [value_declare hx, value_declare hy, value_declare hx, value_declare hy]
  simp only [Table.insertNew?_comm hclass, Table.insertNew?_comm h, Table.insertNew?_comm hindividual]

/-- A reference of one form is its identifier in this form. -/
theorem present_eq_of_oneForm {r : Reference} {identifier : String}
    (hi : r.present.identifier? = some identifier)
    (hform : r.present.iri = none ∨ r.present.abbreviated = none) :
    r.present = ⟨some identifier, none⟩ ∨ r.present = ⟨none, some identifier⟩ := by
  generalize r.present = p at hi hform
  obtain ⟨iri, abbreviated⟩ := p
  cases iri <;> cases abbreviated <;> simp_all [Reference.identifier?]

/-- Where one identifier suggests one name, it has one entry. -/
theorem agree_entryOfProperty? {d : Document} (hd : d.DeclaresSimply) (hn : d.NamesAgree)
    (hx : x ∈ d.declarations) (hy : y ∈ d.declarations) :
    Table.Agree (entryOfProperty? x.property?) (entryOfProperty? y.property?) := by
  intro e he e' he' hkey
  obtain ⟨r, hr, he⟩ := Option.bind_eq_some_iff.1 he
  obtain ⟨r', hr', he'⟩ := Option.bind_eq_some_iff.1 he'
  obtain ⟨identifier, hi, rfl⟩ := Option.map_eq_some_iff.1 he
  obtain ⟨identifier', hi', rfl⟩ := Option.map_eq_some_iff.1 he'
  obtain rfl : identifier = identifier' := hkey
  have hname : r.suggestedName = r'.suggestedName := by
    -- in the same form the references are equal; in different forms their names agree
    rcases present_eq_of_oneForm hi (hd.oneForm x hx r hr) with hp | hp <;>
      rcases present_eq_of_oneForm hi' (hd.oneForm y hy r' hr') with hp' | hp'
    · rw [Reference.suggestedName, hp, Reference.suggestedName, hp']
    · exact hn x hx y hy r hr r' hr' identifier (by rw [hp]; rfl) (by rw [hp']; rfl)
    · exact (hn y hy x hx r' hr' r hr identifier (by rw [hp']; rfl) (by rw [hp]; rfl)).symm
    · rw [Reference.suggestedName, hp, Reference.suggestedName, hp']
  rw [hname]

/-- The order of declarations makes no difference to the ontology before its axioms. -/
theorem described_eq_of_perm {d : Document} (hd : d.DeclaresSimply) (hn : d.NamesAgree)
    {declarations : List Declaration} (hp : declarations.Perm d.declarations)
    (axioms : List SubclassAxiom) (root : String) :
    described root { d with declarations, axioms } = described root d := by
  have hfold : ∀ empty : Ontology,
      d.declarations.foldl (fun o x => (declare d.resolver o x).value) empty =
        declarations.foldl (fun o x => (declare d.resolver o x).value) empty :=
    hp.symm.foldl_eq' fun x hx y hy o => declare_comm (hd.single x hx) (hd.single y hy)
      (agree_entryOfProperty? hd hn hx hy) o
  unfold described
  rw [hfold]
  rfl

end Ontology

end OntologySchema
