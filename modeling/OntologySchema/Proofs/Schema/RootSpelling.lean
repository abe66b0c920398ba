import OntologySchema.Proofs.Ontology.Root
import OntologySchema.Proofs.Schema.Simulation

/-!
# The spelling of the root

A schema depends on which classes are the root, and not on how this was said (`ofOntology_withRoot`). So the
root may be designated by the abbreviation that is computed for its IRI as well as by the IRI. Another
abbreviated IRI that expands to the same IRI is not recognized: the schema is then the one without a root
(`schema_of_shortRoot`). Where no base of a prefix is the start of another there is only one abbreviation, and
the spelling has no effect (`schema_of_shortRoot_of_apart`).
-/

namespace OntologySchema.Schema

open Attempt Ontology

variable {s : SchemaOptions} {o : Ontology} {c : OntClass} {root short iri : String}

/-! ### The same classes are the root -/

/-- The ontology with another root resembles itself, if this is the same class. -/
theorem resembles_withRoot (h : ∀ c ∈ o.classes.values, (o.withRoot root).isRoot c = o.isRoot c) :
    Resembles (fun c c' => c = c' ∧ c ∈ o.classes.values) o (o.withRoot root) where
  isRoot_eq := fun ⟨hc, hmem⟩ => hc ▸ h _ hmem
  prefixes_eq := rfl
  entries := List.forall₂_same.2 fun _ he => ⟨rfl, rfl, List.mem_map_of_mem he⟩
  place := fun ⟨hc, _⟩ => hc ▸ ⟨rfl, rfl, rfl, rfl⟩

/-- A class inherits the same from the same chain of classes. -/
theorem partsAlike_withRoot
    (h : Resembles (fun c c' => c = c' ∧ c ∈ o.classes.values) o (o.withRoot root))
    (hc : c ∈ o.classes.values) : PartsAlike Eq Eq s s o (o.withRoot root) c c := by
  have hchain : ∀ {chain chain' : List OntClass},
      List.Forall₂ (fun c c' => c = c' ∧ c ∈ o.classes.values) chain chain' → chain = chain' := by
    intro chain chain' hchain
    rw [← List.forall₂_eq_eq_eq]
    exact hchain.imp fun _ _ hc => hc.1
  refine ⟨fun names _ => messageOptions_alike h ⟨rfl, hc⟩ names, fun names => ?_, fun names => ?_⟩
  · refine (h.inheritanceChain c.iri).bind fun chain chain' _ _ heq => .pure ?_
    rw [hchain heq]
    exact List.forall₂_same.2 fun p _ => dataDraft_alike h rfl fun _ _ _ => rfl
  · refine (h.inheritanceChain c.iri).bind fun chain chain' _ _ heq => .pure ?_
    rw [hchain heq]
    exact List.forall₂_same.2 fun p _ => objectDraft_alike h rfl fun _ _ _ => rfl

/-- Designations of the same classes give the same schema, or none for the same reason. -/
theorem ofOntology_withRoot (h : ∀ c ∈ o.classes.values, (o.withRoot root).isRoot c = o.isRoot c) :
    (ofOntology s (o.withRoot root)).result = (ofOntology s o).result := by
  have hresembles := resembles_withRoot h
  refine (ofOntology_alike_eq hresembles fun c hc c' _ ⟨heq, _⟩ => ?_).result_eq
  subst heq
  have halike := messageOf_alike (K := Eq) hresembles rfl (fun _ _ => rfl) ⟨rfl, hc⟩ rfl
    fun _ => partsAlike_withRoot (s := s) hresembles hc
  exact halike.imp fun _ _ _ _ hm => hm.eq

/-! ### Roots of documents -/

section Documents

variable {d : Document}

theorem unclaimed_ofDocument
    (hnames : ∀ c ∈ (Ontology.ofDocument iri d).value.classes.values, c.name ≠ short ∧ c.name ≠ iri)
    (hspellings : ∀ c ∈ (Ontology.ofDocument iri d).value.classes.values, c.iri ≠ iri →
      c.iri ≠ short ∧ d.prefixes.abbreviate c.iri ≠ short ∧ d.prefixes.abbreviate c.iri ≠ iri) :
    ∀ c ∈ (Ontology.ofDocument iri d).value.classes.values,
      (Ontology.ofDocument iri d).value.Unclaimed short iri c := by
  intro c hc
  refine ⟨hnames c hc, fun hne => ?_⟩
  rw [prefixes_ofDocument]
  exact hspellings c hc hne

/-- The abbreviation that is computed for an IRI designates the same root as the IRI. -/
theorem ofOntology_of_abbreviation (hexpand : d.prefixes.expand short = .ok iri)
    (hunclaimed : ∀ c ∈ (Ontology.ofDocument iri d).value.classes.values,
      (Ontology.ofDocument iri d).value.Unclaimed short iri c)
    (hspelled : short = iri ∨ d.prefixes.abbreviate iri = short) :
    (ofOntology s (Ontology.ofDocument short d).value).result =
      (ofOntology s (Ontology.ofDocument iri d).value).result := by
  have hprefixes := prefixes_ofDocument iri d
  have hne : iri ≠ "" := by
    rintro rfl
    rw [Prefixes.abbreviate_empty, eq_comm, or_self] at hspelled
    exact Prefixes.ne_empty_of_expand hexpand hspelled.symm
  have hself : (Ontology.ofDocument iri d).value.withRoot iri = (Ontology.ofDocument iri d).value :=
    (ofDocument_withRoot iri iri d).symm
  rw [ofDocument_withRoot iri short d]
  refine ofOntology_withRoot fun c hc => ?_
  have hiri := isRoot_withRoot_iri (hunclaimed c hc) hne
  rw [hself] at hiri
  rw [isRoot_withRoot_of_expand (hunclaimed c hc) (hprefixes ▸ hexpand), hiri, hprefixes]
  simp [hspelled]

/-- Any other abbreviated IRI designates no root. -/
theorem ofOntology_of_otherAbbreviation (hexpand : d.prefixes.expand short = .ok iri)
    (hunclaimed : ∀ c ∈ (Ontology.ofDocument iri d).value.classes.values,
      (Ontology.ofDocument iri d).value.Unclaimed short iri c)
    (hspelled : ¬ (short = iri ∨ d.prefixes.abbreviate iri = short)) :
    (ofOntology s (Ontology.ofDocument short d).value).result =
      (ofOntology s (Ontology.ofDocument "" d).value).result := by
  have hprefixes := prefixes_ofDocument iri d
  rw [ofDocument_withRoot iri "" d, ofDocument_withRoot iri short d]
  refine ofOntology_withRoot (o := (Ontology.ofDocument iri d).value.withRoot "") fun c hc => ?_
  have hshort := isRoot_withRoot_of_expand (hunclaimed c hc) (hprefixes ▸ hexpand)
  rw [hprefixes] at hshort
  refine hshort.trans ?_
  simp [hspelled, isRoot, withRoot]

/-- A root may be designated by the abbreviation that is computed for its IRI. Any other abbreviated IRI that
expands to the IRI designates none. No class may have one of the two spellings as its display name, and no
other class may be spelled like them. -/
theorem schema_of_shortRoot (d : Document) (s : SchemaOptions) (short iri : String)
    (hexpand : d.prefixes.expand short = .ok iri)
    (hnames : ∀ c ∈ (Ontology.ofDocument iri d).value.classes.values, c.name ≠ short ∧ c.name ≠ iri)
    (hspellings : ∀ c ∈ (Ontology.ofDocument iri d).value.classes.values, c.iri ≠ iri →
      c.iri ≠ short ∧ d.prefixes.abbreviate c.iri ≠ short ∧ d.prefixes.abbreviate c.iri ≠ iri) :
    (ofOntology s (Ontology.ofDocument short d).value).result =
      if short = iri ∨ d.prefixes.abbreviate iri = short then
        (ofOntology s (Ontology.ofDocument iri d).value).result
      else (ofOntology s (Ontology.ofDocument "" d).value).result := by
  have hunclaimed := unclaimed_ofDocument hnames hspellings
  by_cases hspelled : short = iri ∨ d.prefixes.abbreviate iri = short
  · rw [if_pos hspelled]
    exact ofOntology_of_abbreviation hexpand hunclaimed hspelled
  · rw [if_neg hspelled]
    exact ofOntology_of_otherAbbreviation hexpand hunclaimed hspelled

/-- Where no base is the start of another and no IRI of a class looks abbreviated, a declared root may be
designated by any spelling. -/
theorem schema_of_shortRoot_of_apart (hapart : d.prefixes.Apart)
    (hexpand : d.prefixes.expand short = .ok iri)
    (hdeclared : (Ontology.ofDocument iri d).value.classes.contains iri = true)
    (hlong : ∀ c ∈ (Ontology.ofDocument iri d).value.classes.values,
      ¬ d.prefixes.LooksAbbreviated c.iri)
    (hnames : ∀ c ∈ (Ontology.ofDocument iri d).value.classes.values,
      c.name ≠ short ∧ c.name ≠ iri) :
    (ofOntology s (Ontology.ofDocument short d).value).result =
      (ofOntology s (Ontology.ofDocument iri d).value).result := by
  have hiri : ¬ d.prefixes.LooksAbbreviated iri := by
    obtain ⟨c, hc⟩ := contains_iff.1 hdeclared
    have hkey := (wellFormed_ofDocument iri d).keyed iri c hc
    exact hkey ▸ hlong c (Table.mem_values_of_find? hc)
  refine ofOntology_of_abbreviation hexpand (unclaimed_ofDocument hnames fun c hc hne => ?_)
    (.inr (hapart.abbreviate_of_expand hexpand))
  refine ⟨?_, ?_, ?_⟩
  · rintro rfl
    exact hlong c hc (Prefixes.looksAbbreviated_of_expand hexpand)
  · rintro rfl
    obtain hsame | hback := hapart.expand_abbreviate c.iri
    · rw [hsame] at hexpand
      exact hlong c hc (Prefixes.looksAbbreviated_of_expand hexpand)
    · exact hne (Except.ok.inj (hback.symm.trans hexpand))
  · intro habbreviated
    obtain hsame | hback := hapart.expand_abbreviate c.iri
    · exact hne (hsame.symm.trans habbreviated)
    · rw [habbreviated] at hback
      exact hiri (Prefixes.looksAbbreviated_of_expand hback)

end Documents

/-- The types of the fields of each message. -/
def fieldTypes (schema : Schema) : List (List String) :=
  schema.messages.map fun m => m.fields.map (·.shape.type)

/-- A class that refers to another, with two short names for one base. -/
def twoShortNames : Document where
  prefixDeclarations := [{ name := "", iri := "urn:/" }, { name := "ex", iri := "urn:/" }]
  declarations :=
    [{ class? := some { iri := some "urn:/Host" } }, { class? := some { iri := some "urn:/Api" } }]
  axioms :=
    [{ classes := [{ iri := some "urn:/Api" }]
       objectSome :=
         [{ property := { iri := some "urn:/to" }, target := { iri := some "urn:/Host" } }] }]

theorem schema_of_shortRoot_twoShortNames :
    twoShortNames.prefixes.expand ":Host" = .ok "urn:/Host" ∧
      twoShortNames.prefixes.expand "ex:Host" = .ok "urn:/Host" ∧
      (ofOntology {} (Ontology.ofDocument ":Host" twoShortNames).value).result =
        (ofOntology {} (Ontology.ofDocument "urn:/Host" twoShortNames).value).result ∧
      (ofOntology {} (Ontology.ofDocument "ex:Host" twoShortNames).value).result =
        (ofOntology {} (Ontology.ofDocument "" twoShortNames).value).result := by
  have hcomputed := schema_of_shortRoot twoShortNames {} ":Host" "urn:/Host" (by decide)
    (by decide) (by decide)
  have hother := schema_of_shortRoot twoShortNames {} "ex:Host" "urn:/Host" (by decide)
    (by decide) (by decide)
  rw [if_pos (by decide)] at hcomputed
  rw [if_neg (by decide)] at hother
  exact ⟨by decide, by decide, hcomputed, hother⟩

theorem fieldTypes_twoShortNames :
    (ofOntology ({} : SchemaOptions).ascending
        (Ontology.ofDocument "urn:/Host" twoShortNames).value).result.map fieldTypes =
        .ok [["string"], []] ∧
      (ofOntology ({} : SchemaOptions).ascending
        (Ontology.ofDocument "ex:Host" twoShortNames).value).result.map fieldTypes =
        .ok [["Host"], []] := by
  constructor <;> with_unfolding_all decide

/-- A second short name of a base is as good as the first where references are expanded, but not where a root
is designated. -/
theorem schema_of_secondShortName :
    twoShortNames.prefixes.expand "ex:Host" = .ok "urn:/Host" ∧
      (Ontology.ofDocument "urn:/Host" twoShortNames).value.classes.contains "urn:/Host" = true ∧
      (∀ c ∈ (Ontology.ofDocument "urn:/Host" twoShortNames).value.classes.values,
        c.name ≠ "ex:Host" ∧ c.name ≠ "urn:/Host") ∧
      (ofOntology ({} : SchemaOptions).ascending
          (Ontology.ofDocument "ex:Host" twoShortNames).value).result ≠
        (ofOntology ({} : SchemaOptions).ascending
          (Ontology.ofDocument "urn:/Host" twoShortNames).value).result := by
  refine ⟨by decide, by decide, by decide, fun hresult => ?_⟩
  obtain ⟨hlong, hshort⟩ := fieldTypes_twoShortNames
  rw [hresult, hlong] at hshort
  exact absurd hshort (by decide)

end OntologySchema.Schema
