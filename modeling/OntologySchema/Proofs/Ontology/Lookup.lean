import OntologySchema.Proofs.LookupKeys
import OntologySchema.Proofs.Ontology.Axioms
import OntologySchema.Proofs.Ontology.Entries

/-!
# Properties and individuals are found

After the first pass no identifier is registered and none is forgotten (`Reached.registered`). So whatever is
found at one place of the second and third pass is found at every other: a plain reference to a property that
is declared in one spelling leads to the entry of this property and to no other, be it to change it or to read
it, and a reference to anything else does not lead to it (`entries_found`).

Without these conditions it may lead elsewhere (`found_elsewhere`): an identifier is looked up as a text, so an
IRI that was declared in the place of an abbreviated IRI, and an IRI that looks like one, are met in the
lookup of what they do not denote.
-/

namespace OntologySchema.Ontology

variable {rv : Resolver} {o : Ontology} {root : String} {d : Document}

/-! ### The second and the third pass -/

/-- An ontology in the making: after the declarations of a document, some annotations and axioms have been
taken in. -/
inductive Reached (root : String) (d : Document) : Ontology → Prop
  | declared : Reached root d (d.declarations.foldl (fun o x => (declare d.resolver o x).value)
      { prefixes := d.prefixes, root })
  | annotated {o' : Ontology} (h : Reached root d o') (a : Annotation) :
      Reached root d (annotate d.resolver o' a).value
  | attached {o' : Ontology} (h : Reached root d o') (a : SubclassAxiom) :
      Reached root d (attach d.resolver o' a).value

namespace Reached

theorem foldl_annotate (h : Reached root d o) (as : List Annotation) :
    Reached root d (as.foldl (fun o a => (annotate d.resolver o a).value) o) := by
  induction as generalizing o with
  | nil => exact h
  | cons a as ih => exact ih (h.annotated a)

theorem foldl_attach (h : Reached root d o) (as : List SubclassAxiom) :
    Reached root d (as.foldl (fun o a => (attach d.resolver o a).value) o) := by
  induction as generalizing o with
  | nil => exact h
  | cons a as ih => exact ih (h.attached a)

/-- The ontology of a document is one that is reached. -/
theorem ofDocument (root : String) (d : Document) : Reached root d (ofDocument root d).value := by
  rw [value_ofDocument]
  exact (Reached.declared.foldl_annotate d.annotations).foldl_attach d.axioms

/-- What is registered stays registered, and nothing else comes to be. -/
theorem registered (h : Reached root d o) :
    o.properties.RegisteredBy d.declaredProperties ∧
      o.individuals.RegisteredBy d.declaredIndividuals := by
  induction h with
  | declared => exact registered_declarations root d
  | @annotated o _ a ih =>
    constructor
    · intro k
      rw [contains_properties_annotate, ih.1]
    · intro k
      rw [(entries_annotate d.resolver o a).2, Table.contains_modifyFirst, ih.2]
  | @attached o _ a ih =>
    have hedits : Edits o (attach d.resolver o a).value := edits_attach o a
    rw [hedits.sameNames.properties_eq, hedits.sameNames.individuals_eq]
    exact ih

end Reached

/-! ### Lookups -/

section Lookups

variable {α : Type} {t : Table α} {p i : String}

/-- The entry at `i` is what plain references to `p` lead to, and only they do. -/
structure Finds (rv : Resolver) (t : Table α) (p i : String) : Prop where
  registered : ∃ e, t.find? i = some e
  only : ∀ r, rv.Plain r → rv.canonical? r = some p → (rv.lookupKeys r).filter t.contains = [i]
  others : ∀ r q, rv.Plain r → rv.canonical? r = some q → q ≠ p → i ∉ rv.lookupKeys r

/-- What is declared in one spelling is found among what is registered. -/
theorem finds_of_declaredOnce {refs : List Reference} {r₀ : Reference} (ht : rv.prefixes.Apart)
    (h : rv.DeclaredOnce refs r₀ p i) (hreg : t.RegisteredBy refs) : Finds rv t p i where
  registered := Table.contains_iff.1 ((hreg i).2 ⟨r₀, h.declared, h.identifier⟩)
  only := fun r hr hp => by
    have hmem : ∀ k, k ∈ (rv.lookupKeys r).filter t.contains ↔ k ∈ [i] := by
      intro k
      rw [List.mem_filter, hreg, List.mem_singleton]
      exact h.mem_keys_iff ht hr hp
    have hnodup : ((rv.lookupKeys r).filter t.contains).Nodup := (rv.nodup_lookupKeys r).filter _
    exact List.perm_singleton.1 ((List.perm_ext_iff_of_nodup hnodup (List.nodup_singleton i)).2 hmem)
  others := fun r q hr hq hne => h.not_mem_keys ht hr hq hne

namespace Finds

variable {r : Reference} {q : String}

theorem first (h : Finds rv t p i) (hr : rv.Plain r) (hp : rv.canonical? r = some p) :
    (rv.lookupKeys r).find? t.contains = some i := by
  rw [← List.head?_filter, h.only r hr hp]
  rfl

/-- To change what is looked up is to change the entry. -/
theorem modifyFirst_eq (h : Finds rv t p i) (hr : rv.Plain r) (hp : rv.canonical? r = some p)
    (f : α → α) : t.modifyFirst (rv.lookupKeys r) f = t.modify i f := by
  rw [Table.modifyFirst, h.first hr hp]

theorem find?_modifyFirst (h : Finds rv t p i) (hr : rv.Plain r) (hq : rv.canonical? r = some q)
    (hne : q ≠ p) (f : α → α) : (t.modifyFirst (rv.lookupKeys r) f).find? i = t.find? i := by
  unfold Table.modifyFirst
  split
  · next k hk =>
    have hki : i ≠ k := fun hki => h.others r q hr hq hne (hki ▸ List.mem_of_find?_eq_some hk)
    rw [Table.find?_modify, if_neg hki]
  · rfl

/-- To read what is looked up is to read the entry. -/
theorem findSome?_eq (h : Finds rv t p i) (hr : rv.Plain r) (hp : rv.canonical? r = some p) :
    (rv.lookupKeys r).findSome? t.find? = t.find? i := by
  rw [Table.findSome?_find?, h.first hr hp, Option.bind_some]

end Finds

end Lookups

/-- The property with IRI `p` is found under `i`: by who reads its name and its comment, and by an annotation
that is about it and not about a class. -/
structure PropertyFound (rv : Resolver) (o : Ontology) (p i : String) : Prop
    extends Finds rv o.properties p i where
  read : ∀ r, rv.Plain r → rv.canonical? r = some p → ∃ e, o.properties.find? i = some e ∧
    o.property? (rv.lookupKeys r) = some e ∧
    o.propertyName rv r = (if e.name ≠ "" then e.name else Naming.clean r.derivedName) ∧
    o.propertyComment? rv r = e.comment?
  written : ∀ a, rv.Plain a.subject → rv.canonical? a.subject = some p →
    o.classes.contains p = false →
    (annotate rv o a).value.properties = o.properties.modify i (annotatedProperty a)
  kept : ∀ a q, rv.Plain a.subject → rv.canonical? a.subject = some q → q ≠ p →
    (annotate rv o a).value.properties.find? i = o.properties.find? i

/-- The individual with IRI `p` is found under `i`: by who reads its type, and by an annotation that is about
it. -/
structure IndividualFound (rv : Resolver) (o : Ontology) (p i : String) : Prop
    extends Finds rv o.individuals p i where
  read : ∀ r, rv.Plain r → rv.canonical? r = some p → ∃ e, o.individuals.find? i = some e ∧
    o.individual? (rv.lookupKeys r) = some e
  written : ∀ a, rv.Plain a.subject → rv.canonical? a.subject = some p →
    (annotate rv o a).value.individuals = o.individuals.modify i (annotatedIndividual a)
  kept : ∀ a q, rv.Plain a.subject → rv.canonical? a.subject = some q → q ≠ p →
    (annotate rv o a).value.individuals.find? i = o.individuals.find? i

theorem Finds.property {p i : String} (h : Finds rv o.properties p i) : PropertyFound rv o p i where
  toFinds := h
  read := fun r hr hp => by
    obtain ⟨e, he⟩ := h.registered
    have hread : o.property? (rv.lookupKeys r) = some e := (h.findSome?_eq hr hp).trans he
    refine ⟨e, he, hread, ?_, ?_⟩
    · rw [propertyName, hread]
    · rw [propertyComment?, hread]
      rfl
  written := fun a ha hp hclass => by
    rw [(entries_annotate rv o a).1, h.modifyFirst_eq ha hp, hp, Option.any_some, hclass]
    rfl
  kept := fun a q ha hq hne => by
    rw [(entries_annotate rv o a).1]
    split
    · rfl
    · exact h.find?_modifyFirst ha hq hne _

theorem Finds.individual {p i : String} (h : Finds rv o.individuals p i) :
    IndividualFound rv o p i where
  toFinds := h
  read := fun r hr hp => by
    obtain ⟨e, he⟩ := h.registered
    exact ⟨e, he, (h.findSome?_eq hr hp).trans he⟩
  written := fun a ha hp => by
    rw [(entries_annotate rv o a).2, h.modifyFirst_eq ha hp]
  kept := fun a q ha hq hne => by
    rw [(entries_annotate rv o a).2, h.find?_modifyFirst ha hq hne]

/-- Properties and individuals that are declared in one spelling are found wherever a document refers to them,
in whatever spelling, and nothing else is taken for them. -/
theorem entries_found (root : String) {d : Document} (ht : d.prefixes.Apart) {o : Ontology}
    (ho : Reached root d o) :
    (∀ r₀ p i, d.resolver.DeclaredOnce d.declaredProperties r₀ p i →
        PropertyFound d.resolver o p i) ∧
      ∀ r₀ p i, d.resolver.DeclaredOnce d.declaredIndividuals r₀ p i →
        IndividualFound d.resolver o p i := by
  obtain ⟨hproperties, hindividuals⟩ := ho.registered
  exact ⟨fun r₀ p i h => (finds_of_declaredOnce ht h hproperties).property,
    fun r₀ p i h => (finds_of_declaredOnce ht h hindividuals).individual⟩

/-- A property that is declared by its abbreviation and an individual that is declared by its IRI, both of them
annotated in the other spelling. -/
def twoSpellings : Document where
  prefixDeclarations := [{ name := "ex", iri := "http://foo/" }, { name := "b", iri := "urn:b#" }]
  declarations :=
    [{ class? := some { iri := some "urn:A" }, dataProperty? := some { abbreviated := some "ex:x" } },
     { objectProperty? := some { abbreviated := some "ex:x" } },
     { dataProperty? := some { iri := some "urn:b#y" } },
     { individual? := some { iri := some "urn:b#i" } }]
  annotations :=
    [{ property := { abbreviated := some "rdfs:label" }
       writtenSubject := { iri := some "http://foo/x" }
       literal := "X" },
     { property := { abbreviated := some "rdfs:seeAlso" }
       writtenSubject := { abbreviated := some "b:i" }
       literal := "xsd:int" }]

theorem entries_found_twoSpellings :
    twoSpellings.prefixes.Apart ∧
      twoSpellings.resolver.DeclaredOnce twoSpellings.declaredProperties
        { abbreviated := some "ex:x" } "http://foo/x" "ex:x" ∧
      twoSpellings.resolver.DeclaredOnce twoSpellings.declaredIndividuals
        { iri := some "urn:b#i" } "urn:b#i" "urn:b#i" ∧
      Reached "" twoSpellings (ofDocument "" twoSpellings).value ∧
      PropertyFound twoSpellings.resolver (ofDocument "" twoSpellings).value "http://foo/x" "ex:x" ∧
      IndividualFound twoSpellings.resolver (ofDocument "" twoSpellings).value "urn:b#i" "urn:b#i" ∧
      (ofDocument "" twoSpellings).value.propertyName twoSpellings.resolver
        { iri := some "http://foo/x" } = "X" ∧
      ((ofDocument "" twoSpellings).value.individual?
        (twoSpellings.resolver.lookupKeys { abbreviated := some "b:i" })).bind (·.type) =
          some "xsd:int" := by
  have happart : twoSpellings.prefixes.Apart := by decide +kernel
  have hproperty : twoSpellings.resolver.DeclaredOnce twoSpellings.declaredProperties
      { abbreviated := some "ex:x" } "http://foo/x" "ex:x" := by decide +kernel
  have hindividual : twoSpellings.resolver.DeclaredOnce twoSpellings.declaredIndividuals
      { iri := some "urn:b#i" } "urn:b#i" "urn:b#i" := by decide +kernel
  have hreached := Reached.ofDocument "" twoSpellings
  have hfound := entries_found "" happart hreached
  exact ⟨happart, hproperty, hindividual, hreached, hfound.1 _ _ _ hproperty,
    hfound.2 _ _ _ hindividual, by decide +kernel, by decide +kernel⟩

/-- Declarations of properties by abbreviated IRIs, with the prefix `ex` and perhaps another. -/
def declaringShort (prefixes : List PrefixDeclaration) (declarations : List Declaration) : Document where
  prefixDeclarations := { name := "ex", iri := "http://foo/" } :: prefixes
  declarations := declarations

/-- An IRI is declared in the place of an abbreviated IRI. -/
def misplacedIri : Document :=
  declaringShort []
    [{ dataProperty? := some { abbreviated := some "ex:x" } },
     { dataProperty? := some { abbreviated := some "http://foo/x" } }]

/-- A property is declared together with a class that is there already. -/
def besideKnownClass : Document :=
  declaringShort []
    [{ class? := some { iri := some "urn:A" } },
     { class? := some { iri := some "urn:A" }, dataProperty? := some { abbreviated := some "ex:x" } }]

/-- What `t:x` denotes looks like the abbreviation of another IRI. -/
def shortOnShort : Document :=
  declaringShort [{ name := "t", iri := "ex:" }]
    [{ dataProperty? := some { abbreviated := some "ex:x" } }]

/-- The keys of a reference that are registered as properties. -/
def registeredKeys (d : Document) (r : Reference) : List String :=
  (d.resolver.lookupKeys r).filter (ofDocument "" d).value.properties.contains

/-- The bases are apart, the declarations of `http://foo/x` all spell it `ex:x`, and no property is declared by
an IRI. -/
def DeclaresShort (d : Document) : Prop :=
  let declared := d.declarations.flatMap Declaration.properties
  d.prefixes.Apart ∧ (∀ u ∈ declared, u.iri = none) ∧
    declared.filter (fun u => d.resolver.canonical? u.present = some "http://foo/x") =
      [{ abbreviated := some "ex:x" }]

instance (d : Document) : Decidable (DeclaresShort d) := by
  unfold DeclaresShort
  infer_instance

/-- A property that is declared in one spelling is not the only one that is found if its IRI is declared in the
place of an abbreviated IRI, it is not found at all if its declaration is passed over, and it is found by what
denotes something else if that looks like its abbreviation. -/
theorem found_elsewhere :
    (DeclaresShort misplacedIri ∧
      misplacedIri.resolver.canonical? { iri := some "http://foo/x" } = some "http://foo/x" ∧
      registeredKeys misplacedIri { iri := some "http://foo/x" } = ["http://foo/x", "ex:x"] ∧
      (ofDocument "" misplacedIri).value.propertyName misplacedIri.resolver
        { iri := some "http://foo/x" } = "foox" ∧
      (ofDocument "" misplacedIri).value.propertyName misplacedIri.resolver
        { abbreviated := some "ex:x" } = "x") ∧
    (DeclaresShort besideKnownClass ∧
      besideKnownClass.resolver.canonical? { iri := some "http://foo/x" } = some "http://foo/x" ∧
      registeredKeys besideKnownClass { iri := some "http://foo/x" } = []) ∧
    DeclaresShort shortOnShort ∧
      shortOnShort.resolver.canonical? { abbreviated := some "t:x" } = some "ex:x" ∧
      registeredKeys shortOnShort { abbreviated := some "t:x" } = ["ex:x"] := by
  decide +kernel

end OntologySchema.Ontology
