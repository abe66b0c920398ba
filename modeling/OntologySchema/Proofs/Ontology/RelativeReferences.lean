import OntologySchema.Proofs.Ontology.Accounting
import OntologySchema.Proofs.Ontology.Correspondence

/-!
# Relative references

A relative reference to a class denotes what the base gives for it. One to a property or an individual is never
put behind the base: its entry is registered, and looked up, under the relative IRI. So a property that is
declared as `#p` and used by its absolute IRI is another property (`absoluteInUse_differs`).

What does hold is that a relative reference may be written out in all places at once. Links depend on classes
only (`classes_withLink`), and axioms give the same (`flatMap_gains_eq`), so the classes end up with the same
properties, but for the identifiers that these keep as written (`ofDocument_writtenOut`).
-/

namespace OntologySchema

namespace Ontology

variable {rv : Resolver} {base : String} {out : Reference → Bool} {d d' : Document} {o o' : Ontology}

/-! ### Axioms -/

/-- Links depend on classes only. -/
theorem classes_attachParent (hclasses : o'.classes = o.classes) (subject parent : Reference) :
    (o'.attachParent rv subject parent).value.classes =
      (o.attachParent rv subject parent).value.classes := by
  have hlinkable : ∀ {child parentIri}, Linkable rv o' subject parent child parentIri ↔
      Linkable rv o subject parent child parentIri := by
    intro child parentIri
    have hfind : o'.find? child = o.find? child := by rw [find?, hclasses, find?]
    constructor
    · rintro ⟨h₁, h₂, h₃, h₄, h₅, h₆⟩
      exact ⟨h₁, h₂, hclasses ▸ h₃, hclasses ▸ h₄, h₅, hfind ▸ h₆⟩
    · rintro ⟨h₁, h₂, h₃, h₄, h₅, h₆⟩
      exact ⟨h₁, h₂, hclasses.symm ▸ h₃, hclasses.symm ▸ h₄, h₅, hfind.symm ▸ h₆⟩
  by_cases htop : DenotesTop rv parent
  · rw [attachParent_of_top htop, attachParent_of_top htop]
    exact hclasses
  · by_cases hlink : ∃ child parentIri, Linkable rv o subject parent child parentIri
    · obtain ⟨child, parentIri, h⟩ := hlink
      rw [attachParent_of_linkable htop h, attachParent_of_linkable htop (hlinkable.2 h)]
      simp only [Logged.value_pure, link, modify, hclasses]
    · have hlink' : ¬ ∃ child parentIri, Linkable rv o' subject parent child parentIri := by
        simpa only [hlinkable] using hlink
      obtain ⟨e, -, he⟩ := attachParent_of_not_linkable htop hlink
      obtain ⟨e', -, he'⟩ := attachParent_of_not_linkable htop hlink'
      rw [he, he']
      exact hclasses

theorem classes_withLink (hclasses : o'.classes = o.classes) {a a' : SubclassAxiom}
    (hlike : a.Like (.writingOut base out) a') :
    (withLink rv o' a').classes = (withLink rv o a).classes := by
  have hshape := hlike.shape?
  unfold withLink
  generalize a.shape? = shape? at hshape
  generalize a'.shape? = shape'? at hshape
  cases hshape with
  | none => exact hclasses
  | some h =>
    cases h with
    | subclass hs hp =>
      cases hs
      cases hp
      exact classes_attachParent hclasses _ _
    | dataSome => exact hclasses
    | dataValue => exact hclasses
    | objectSome => exact hclasses
    | objectValue => exact hclasses

theorem classes_foldl_withLink {as as' : List SubclassAxiom}
    (hlike : List.Forall₂ (SubclassAxiom.Like (.writingOut base out)) as as')
    (hclasses : o'.classes = o.classes) :
    (as'.foldl (withLink rv) o').classes = (as.foldl (withLink rv) o).classes := by
  induction hlike generalizing o o' with
  | nil => exact hclasses
  | cons ha _ ih => exact ih (classes_withLink hclasses ha)

/-- What classes gain without identifiers they have without identifiers. -/
theorem find?_foldl_gain_eq {gs gs' : List Gain}
    (hgains : gs'.map Gain.withoutIdentifier = gs.map Gain.withoutIdentifier)
    (hfind : ∀ k, (o'.find? k).map OntClass.withoutIdentifiers =
      (o.find? k).map OntClass.withoutIdentifiers) (k : String) :
    ((gs'.foldl gain o').find? k).map OntClass.withoutIdentifiers =
      ((gs.foldl gain o).find? k).map OntClass.withoutIdentifiers := by
  have howner : ∀ g : Gain, g.withoutIdentifier.owner = g.owner := fun g => by cases g <;> rfl
  have hgain : ∀ g : Gain, OntClass.withoutIdentifiers ∘ (·.gain g) =
      (·.gain g.withoutIdentifier) ∘ OntClass.withoutIdentifiers := by
    intro g
    funext c
    cases g <;> simp [OntClass.gain, OntClass.withoutIdentifiers, Gain.withoutIdentifier]
  induction gs generalizing gs' o o' with
  | nil =>
    rw [List.map_eq_nil_iff.1 hgains]
    exact hfind k
  | cons g gs ih =>
    obtain ⟨g', rest, rfl, hg, hrest⟩ := List.map_eq_cons_iff.1 hgains
    rw [List.foldl_cons, List.foldl_cons]
    refine ih hrest fun j => ?_
    have howners : g'.owner = g.owner := by rw [← howner, hg, howner]
    unfold Ontology.gain
    rw [find?_modify, find?_modify, howners]
    split
    · rw [Option.map_map, Option.map_map, hgain, hgain, ← Option.map_map, hfind, Option.map_map, hg]
    · exact hfind j

/-! ### Documents -/

/-- The individual that is the value of an object property has a type, or the reference to it is not written
out. -/
def ValuesTyped (base : String) (out : Reference → Bool) (root : String) (d : Document) : Prop :=
  ∀ a ∈ d.axioms, ∀ s ∈ a.objectValue,
    s.individual.present.writeOut base out ≠ s.individual.present →
      ((described root d).individual? (d.resolver.lookupKeys s.individual.present)).bind (·.type) ≠ none

/-- What all axioms give is the same after their references are written out. -/
theorem flatMap_gains_eq {root : String} (h : d.WrittenOut base out d')
    (htyped : ValuesTyped base out root d) :
    (d'.axioms.flatMap (gains d.resolver (described root d'))).map Gain.withoutIdentifier =
      (d.axioms.flatMap (gains d.resolver (described root d))).map Gain.withoutIdentifier := by
  have hmembers := (List.forall₂_and_left d.axioms d'.axioms).2 ⟨fun _ ha => ha, h.like.axioms⟩
  rw [List.map_flatMap, List.map_flatMap, eq_comm, ← List.forall₂_eq_eq_eq]
  refine List.rel_flatMap hmembers fun a a' ha => ?_
  rw [List.forall₂_eq_eq_eq, (correspond_described root h).gains_eq h ha.1 ha.2 (htyped a ha.1)]

/-- A document leads to the same classes with the same properties after references to properties and to
individuals and subjects of annotations are written out. -/
theorem ofDocument_writtenOut (h : d.WrittenOut base out d') (root : String)
    (htyped : ValuesTyped base out root d) (k : String) :
    ((ofDocument root d').value.find? k).map OntClass.withoutIdentifiers =
      ((ofDocument root d).value.find? k).map OntClass.withoutIdentifiers := by
  have hdescribed := (correspond_described root h).classes
  rw [value_ofDocument, value_ofDocument, ← h.like.resolver, foldl_attach, foldl_attach]
  refine find?_foldl_gain_eq (flatMap_gains_eq h htyped) (fun j => ?_) k
  rw [find?, classes_foldl_withLink h.like.axioms hdescribed, find?]

/-- A property and an individual as they are declared, described and used. -/
def usedTwice (declared subject used individual : Reference) : Document where
  xmlBase := some "http://example.com/onto#"
  declarations :=
    [{ class? := some { iri := some "urn:A" } }, { dataProperty? := some declared },
     { individual? := some individual }]
  annotations :=
    [{ property := { abbreviated := some "rdfs:label" }, writtenSubject := subject, literal := "Label" },
     { property := { abbreviated := some "rdfs:seeAlso" }, writtenSubject := individual
       literal := "xsd:int" }]
  axioms :=
    [{ classes := [{ iri := some "urn:A" }]
       dataValue := [{ property := used, literal := "xsd:string" }] },
     { classes := [{ iri := some "urn:A" }], objectValue := [{ property := used, individual }] }]

/-- With relative references only. -/
def allRelative : Document :=
  usedTwice { iri := some "#p" } { iri := some "#p" } { iri := some "#p" } { iri := some "#i" }

/-- With all of them written out. -/
def allAbsolute : Document :=
  usedTwice { iri := some "http://example.com/onto#p" } { iri := some "http://example.com/onto#p" }
    { iri := some "http://example.com/onto#p" } { iri := some "http://example.com/onto#i" }

/-- With the property written out where it is used, and there only. -/
def absoluteInUse : Document :=
  usedTwice { iri := some "#p" } { iri := some "#p" } { iri := some "http://example.com/onto#p" }
    { iri := some "#i" }

/-- The names and datatypes of the data properties of `urn:A`. -/
def namedData (d : Document) : List (String × String) :=
  (((ofDocument "" d).value.find? "urn:A").toList.flatMap (·.dataProperties)).map fun p =>
    (p.name, p.type)

theorem allRelative_writtenOut :
    allRelative.WrittenOut "http://example.com/onto#" (fun _ => true) allAbsolute where
  base_eq := by decide
  base_absolute := by decide
  like := by
    have hp : Reference.present { iri := some "http://example.com/onto#p" } =
        (Reference.present { iri := some "#p" }).writeOut "http://example.com/onto#" fun _ => true := by
      decide
    have hi : Reference.present { iri := some "http://example.com/onto#i" } =
        (Reference.present { iri := some "#i" }).writeOut "http://example.com/onto#" fun _ => true := by
      decide
    refine ⟨rfl, ?_, ?_, ?_⟩
    · exact .cons ⟨.some rfl, .none, .none, .none⟩ (.cons ⟨.none, .none, .some hp, .none⟩
        (.cons ⟨.none, .none, .none, .some hi⟩ .nil))
    · exact .cons ⟨.cons rfl .nil, .nil, .cons ⟨hp, rfl⟩ .nil, .nil, .nil⟩
        (.cons ⟨.cons rfl .nil, .nil, .nil, .nil, .cons ⟨hp, hi⟩ .nil⟩ .nil)
    · exact .cons ⟨rfl, rfl, hp⟩ (.cons ⟨rfl, rfl, hi⟩ .nil)
  properties := by decide
  individuals := by decide

theorem valuesTyped_allRelative (out : Reference → Bool) :
    ValuesTyped "http://example.com/onto#" out "" allRelative := by
  have htyped : ∀ a ∈ allRelative.axioms, ∀ s ∈ a.objectValue,
      ((described "" allRelative).individual?
        (allRelative.resolver.lookupKeys s.individual.present)).bind (·.type) ≠ none := by
    decide
  exact fun a ha s hs _ => htyped a ha s hs

theorem ofDocument_writtenOut_allRelative :
    allRelative.WrittenOut "http://example.com/onto#" (fun _ => true) allAbsolute ∧
      ValuesTyped "http://example.com/onto#" (fun _ => true) "" allRelative ∧
      ((ofDocument "" allAbsolute).value.find? "urn:A").map OntClass.withoutIdentifiers =
        ((ofDocument "" allRelative).value.find? "urn:A").map OntClass.withoutIdentifiers ∧
      namedData allRelative = [("Label", "string"), ("Label", "int32")] := by
  refine ⟨allRelative_writtenOut, valuesTyped_allRelative _, ?_, by decide +kernel⟩
  exact ofDocument_writtenOut allRelative_writtenOut "" (valuesTyped_allRelative _) "urn:A"

/-- Any references to properties and individuals and any subjects of annotations are written out, each by
itself. -/
def writingAnyOut (base : String) : Respelling where
  ofProperty r r' := r' = r ∨ r' = r.absolute base
  ofIndividual r r' := r' = r ∨ r' = r.absolute base
  ofSubject r r' := r' = r ∨ r' = r.absolute base

/-- A property that is declared and labelled by a relative reference has another name where the reference to it
is written out. -/
theorem absoluteInUse_differs :
    allRelative.base? = some "http://example.com/onto#" ∧
      allRelative.Like (writingAnyOut "http://example.com/onto#") absoluteInUse ∧
      namedData allRelative = [("Label", "string"), ("Label", "int32")] ∧
      namedData absoluteInUse = [("p", "string"), ("p", "int32")] := by
  have hp : ( { iri := some "http://example.com/onto#p" } : Reference) =
      Reference.absolute "http://example.com/onto#" { iri := some "#p" } := by
    decide +kernel
  refine ⟨by decide, ⟨rfl, ?_, ?_, ?_⟩, by decide +kernel, by decide +kernel⟩
  · exact .cons ⟨.some rfl, .none, .none, .none⟩ (.cons ⟨.none, .none, .some (.inl rfl), .none⟩
      (.cons ⟨.none, .none, .none, .some (.inl rfl)⟩ .nil))
  · exact .cons ⟨.cons rfl .nil, .nil, .cons ⟨.inr hp, rfl⟩ .nil, .nil, .nil⟩
      (.cons ⟨.cons rfl .nil, .nil, .nil, .nil, .cons ⟨.inr hp, .inl rfl⟩ .nil⟩ .nil)
  · exact .cons ⟨rfl, rfl, .inl rfl⟩ (.cons ⟨rfl, rfl, .inl rfl⟩ .nil)

end Ontology

end OntologySchema
