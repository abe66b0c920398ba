import OntologySchema.Proofs.Document
import OntologySchema.Proofs.Ontology.Axioms
import OntologySchema.Proofs.Ontology.Entries
import OntologySchema.Proofs.WritingOut

/-!
# Documents with references written out

A relative reference to a property or an individual may be written out in all places at once
(`Document.WrittenOut`). Then its entry moves to another identifier, and the ontologies that the two documents
lead to correspond (`Correspond`): a declaration or an annotation makes corresponding entries of corresponding
entries (`Correspond.declare`, `Correspond.annotate`), and what an axiom reads of them is the same
(`Correspond.gains_eq`).
-/

namespace OntologySchema

/-! ### What does not depend on identifiers -/

/-- The property without the identifier that the document writes. -/
def DataProperty.withoutIdentifier (p : DataProperty) : DataProperty := { p with iri := "" }

/-- The property without the identifier that the document writes. -/
def ObjectProperty.withoutIdentifier (p : ObjectProperty) : ObjectProperty := { p with iri := "" }

/-- The property without the identifier that the document writes. -/
def Gain.withoutIdentifier : Gain → Gain
  | .data p => .data p.withoutIdentifier
  | .object p => .object p.withoutIdentifier

/-- The class, its properties without the identifiers that the document writes. -/
def OntClass.withoutIdentifiers (c : OntClass) : OntClass :=
  { c with
    dataProperties := c.dataProperties.map DataProperty.withoutIdentifier
    objectProperties := c.objectProperties.map ObjectProperty.withoutIdentifier }

/-- What an entry says of its property. -/
def PropertyEntry.content (e : PropertyEntry) : String × List String := (e.name, e.comments)

/-! ### Documents with references written out -/

/-- The properties in the restrictions of an axiom. -/
def SubclassAxiom.properties (a : SubclassAxiom) : List Reference :=
  a.dataSome.map (·.property) ++ a.dataValue.map (·.property) ++ a.objectSome.map (·.property) ++
    a.objectValue.map (·.property)

theorem SubclassAxiom.mem_properties {a : SubclassAxiom} {r : Reference} :
    r ∈ a.properties ↔ (∃ s ∈ a.dataSome, s.property = r) ∨ (∃ s ∈ a.dataValue, s.property = r) ∨
      (∃ s ∈ a.objectSome, s.property = r) ∨ ∃ s ∈ a.objectValue, s.property = r := by
  simp only [properties, List.mem_append, List.mem_map, or_assoc]

/-- The individuals in the restrictions of an axiom. -/
def SubclassAxiom.individuals (a : SubclassAxiom) : List Reference := a.objectValue.map (·.individual)

/-- The restrictions of a shape are those of the axiom. -/
def AxiomShape.IsOf (a : SubclassAxiom) : AxiomShape → Prop
  | .subclass _ _ => True
  | .dataSome _ rs => rs = a.dataSome
  | .dataValue _ rs => rs = a.dataValue
  | .objectSome _ rs => rs = a.objectSome
  | .objectValue _ rs => rs = a.objectValue

theorem SubclassAxiom.isOf_of_shape? {a : SubclassAxiom} {shape : AxiomShape} (h : a.shape? = some shape) :
    shape.IsOf a := by
  unfold SubclassAxiom.shape? at h
  grind [AxiomShape.IsOf]

namespace Document

/-- The references of a document that may be to a property. -/
def propertyReferences (d : Document) : List Reference :=
  (d.declarations.flatMap Declaration.properties ++
      d.axioms.flatMap SubclassAxiom.properties).map Reference.present ++
    d.annotations.map (·.subject)

/-- The references of a document that may be to an individual. -/
def individualReferences (d : Document) : List Reference :=
  (d.declarations.filterMap Declaration.individual? ++
      d.axioms.flatMap SubclassAxiom.individuals).map Reference.present ++
    d.annotations.map (·.subject)

end Document

/-- The references to properties and individuals and the subjects of annotations that are to be written out are
written out, wherever they stand. -/
def Respelling.writingOut (base : String) (out : Reference → Bool) : Respelling where
  ofProperty r r' := r'.present = r.present.writeOut base out
  ofIndividual r r' := r'.present = r.present.writeOut base out
  ofSubject w w' := Annotation.subject { writtenSubject := w' } =
    ( Annotation.subject { writtenSubject := w }).writeOut base out

/-- One document is the other with some references written out, in such a way that each of them is told from
all other references by its keys. -/
structure Document.WrittenOut (d : Document) (base : String) (out : Reference → Bool) (d' : Document) :
    Prop where
  base_eq : d.base? = some base
  base_absolute : Resolver.isRelative base = false
  like : d.Like (.writingOut base out) d'
  properties : d.resolver.Separate base out d.propertyReferences
  individuals : d.resolver.Separate base out d.individualReferences

theorem Document.WrittenOut.base_ne {base : String} {out : Reference → Bool} {d d' : Document}
    (h : d.WrittenOut base out d') : base ≠ "" := by
  have hbase := h.base_eq
  unfold Document.base? nonempty? at hbase
  exact of_decide_eq_true (Option.filter_eq_some_iff.1 hbase).2

namespace Ontology

variable {rv : Resolver} {base : String} {out : Reference → Bool} {d d' : Document} {o o' : Ontology}

/-- Two ontologies before the third pass, of a document and of the same with references written out: the
classes are the same, and the entries are, as far as they do not depend on identifiers. -/
structure Correspond (base : String) (out : Reference → Bool) (d : Document) (o o' : Ontology) : Prop where
  classes : o'.classes = o.classes
  properties : Table.Rekeyed base out d.propertyReferences PropertyEntry.content
    o.properties o'.properties
  individuals : Table.Rekeyed base out d.individualReferences Individual.type
    o.individuals o'.individuals

theorem present_propertyReferences : ∀ u ∈ d.propertyReferences, u.present = u := by
  intro u hu
  rcases List.mem_append.1 hu with hu | hu
  · obtain ⟨r, -, rfl⟩ := List.mem_map.1 hu
    exact r.present_present
  · obtain ⟨a, -, rfl⟩ := List.mem_map.1 hu
    exact Reference.present_present _

theorem present_individualReferences : ∀ u ∈ d.individualReferences, u.present = u := by
  intro u hu
  rcases List.mem_append.1 hu with hu | hu
  · obtain ⟨r, -, rfl⟩ := List.mem_map.1 hu
    exact r.present_present
  · obtain ⟨a, -, rfl⟩ := List.mem_map.1 hu
    exact Reference.present_present _

theorem present_mem_propertyReferences {a : SubclassAxiom} {r : Reference} (ha : a ∈ d.axioms)
    (hr : r ∈ a.properties) : r.present ∈ d.propertyReferences := by
  refine List.mem_append_left _ (List.mem_map_of_mem (List.mem_append_right _ ?_))
  exact List.mem_flatMap.2 ⟨a, ha, hr⟩

theorem present_mem_individualReferences {a : SubclassAxiom} {r : Reference} (ha : a ∈ d.axioms)
    (hr : r ∈ a.individuals) : r.present ∈ d.individualReferences := by
  refine List.mem_append_left _ (List.mem_map_of_mem (List.mem_append_right _ ?_))
  exact List.mem_flatMap.2 ⟨a, ha, hr⟩

/-! ### Declarations -/

/-- The properties of a declaration that is written out are its properties written out. -/
theorem forall₂_properties {x x' : Declaration} (hx : x ∈ d.declarations)
    (hlike : x.Like (.writingOut base out) x') :
    List.Forall₂ (fun r r' => r.present ∈ d.propertyReferences ∧
      r'.present = r.present.writeOut base out) x.properties x'.properties := by
  have hmem : ∀ r ∈ x.properties, r.present ∈ d.propertyReferences := by
    intro r hr
    refine List.mem_append_left _ (List.mem_map_of_mem (List.mem_append_left _ ?_))
    exact List.mem_flatMap.2 ⟨x, hx, hr⟩
  exact (List.forall₂_and_left _ _).2
    ⟨hmem, List.rel_append (forall₂_toList hlike.dataProperty?) (forall₂_toList hlike.objectProperty?)⟩

theorem forall₂_individuals {x x' : Declaration} (hx : x ∈ d.declarations)
    (hlike : x.Like (.writingOut base out) x') :
    List.Forall₂ (fun r r' => r.present ∈ d.individualReferences ∧
      r'.present = r.present.writeOut base out) x.individual?.toList x'.individual?.toList := by
  have hmem : ∀ r ∈ x.individual?.toList, r.present ∈ d.individualReferences := by
    intro r hr
    refine List.mem_append_left _ (List.mem_map_of_mem (List.mem_append_left _ ?_))
    exact List.mem_filterMap.2 ⟨x, hx, Option.mem_toList.1 hr⟩
  exact (List.forall₂_and_left _ _).2 ⟨hmem, forall₂_toList hlike.individual?⟩

/-- The name that a property suggests does not depend on the base. -/
theorem suggestedName_writeOut {r r' : Reference} (h : r'.present = r.present.writeOut base out) :
    r'.suggestedName = r.suggestedName := by
  rw [Reference.suggestedName, h, Reference.derivedName_writeOut, Reference.suggestedName]

/-- What an annotation makes of entries with the same content has the same content. -/
theorem content_annotatedProperty (a : Annotation) {e e' : PropertyEntry} (h : e'.content = e.content) :
    (annotatedProperty a e').content = (annotatedProperty a e).content := by
  obtain ⟨hname, hcomments⟩ := Prod.mk.inj h
  unfold annotatedProperty PropertyEntry.content
  cases a.kind <;> simp only [hname, hcomments]

theorem type_annotatedIndividual (a : Annotation) {e e' : Individual} (h : e'.type = e.type) :
    (annotatedIndividual a e').type = (annotatedIndividual a e).type := by
  unfold annotatedIndividual
  cases a.kind <;> simp only [h]

namespace Correspond

theorem declare (h : d.WrittenOut base out d') {x x' : Declaration} (hx : x ∈ d.declarations)
    (hlike : x.Like (.writingOut base out) x') (ho : Correspond base out d o o') :
    Correspond base out d (declare d.resolver o x).value (Ontology.declare d.resolver o' x').value := by
  have hclass : x'.class? = x.class? := (eq_of_rel hlike.class?).symm
  have hiri : classIri? d.resolver x' = classIri? d.resolver x := by
    rw [classIri?, hclass, classIri?]
  have hadmitted : x'.isAdmitted d.resolver o'.classes.contains =
      x.isAdmitted d.resolver o.classes.contains := by
    rw [Declaration.isAdmitted, hclass, hiri, ho.classes, Declaration.isAdmitted]
  have hfind : ∀ (o : Ontology) (x : Declaration) (k : String),
      (Ontology.declare d.resolver o x).value.classes.find? k = (o.classes.find? k).or
        (if classIri? d.resolver x = some k then some (newClass k) else none) := fun _ x k =>
    find?_declare x k
  obtain ⟨hproperties, hindividuals⟩ := entries_declare d.resolver o x
  obtain ⟨hproperties', hindividuals'⟩ := entries_declare d.resolver o' x'
  constructor
  case classes =>
    refine Table.ext_find? fun k => ?_
    rw [hfind, hfind, ho.classes, hiri]
  case properties =>
    rw [hproperties, hproperties', hadmitted]
    split
    · exact ho.properties.foldl_insertNew? h.properties present_propertyReferences
        (fun r identifier => { iri := identifier, name := r.suggestedName })
        (fun hr _ _ => by simp only [PropertyEntry.content, suggestedName_writeOut hr])
        (forall₂_properties hx hlike)
    · exact ho.properties
  case individuals =>
    rw [hindividuals, hindividuals', hadmitted]
    split
    · exact ho.individuals.foldl_insertNew? h.individuals present_individualReferences
        (fun _ identifier => { iri := identifier }) (fun _ _ _ => rfl) (forall₂_individuals hx hlike)
    · exact ho.individuals

theorem annotate (h : d.WrittenOut base out d') {a a' : Annotation} (ha : a ∈ d.annotations)
    (hlike : a.Like (.writingOut base out) a') (ho : Correspond base out d o o') :
    Correspond base out d (annotate d.resolver o a).value (Ontology.annotate d.resolver o' a').value := by
  have hsubject : a'.subject = a.subject.writeOut base out := hlike.writtenSubject
  have hcanonical : d.resolver.canonical? a'.subject = d.resolver.canonical? a.subject := by
    rw [hsubject, Reference.canonical?_writeOut h.base_eq h.base_ne h.base_absolute]
  have hclass : annotated a' = annotated a := by
    unfold annotated
    rw [hlike.kind, hlike.literal]
  have hproperty : annotatedProperty a' = annotatedProperty a := by
    unfold annotatedProperty
    rw [hlike.kind, hlike.literal]
  have hindividual : annotatedIndividual a' = annotatedIndividual a := by
    unfold annotatedIndividual
    rw [hlike.kind, hlike.literal]
  have hfind : ∀ (o : Ontology) (a : Annotation) (k : String),
      (Ontology.annotate d.resolver o a).value.classes.find? k =
        if d.resolver.canonical? a.subject = some k then (o.classes.find? k).map (annotated a)
        else o.classes.find? k := fun _ a k => find?_annotate a k
  have hmem : a.subject ∈ d.annotations.map (·.subject) := List.mem_map_of_mem ha
  obtain ⟨hproperties, hindividuals⟩ := entries_annotate d.resolver o a
  obtain ⟨hproperties', hindividuals'⟩ := entries_annotate d.resolver o' a'
  constructor
  case classes =>
    refine Table.ext_find? fun k => ?_
    rw [hfind, hfind, ho.classes, hcanonical, hclass]
  case properties =>
    rw [hproperties, hproperties', hcanonical, ho.classes]
    split
    · exact ho.properties
    · rw [hsubject, hproperty]
      refine ho.properties.modifyFirst h.properties present_propertyReferences
        (List.mem_append_right _ hmem) fun e e' he => ?_
      exact content_annotatedProperty a he
  case individuals =>
    rw [hindividuals, hindividuals', hsubject, hindividual]
    refine ho.individuals.modifyFirst h.individuals present_individualReferences
      (List.mem_append_right _ hmem) fun e e' he => ?_
    exact type_annotatedIndividual a he

end Correspond

theorem correspond_described (root : String) (h : d.WrittenOut base out d') :
    Correspond base out d (described root d) (described root d') := by
  have hdeclarations := (List.forall₂_and_left d.declarations d'.declarations).2
    ⟨fun _ hx => hx, h.like.declarations⟩
  have hannotations := (List.forall₂_and_left d.annotations d'.annotations).2
    ⟨fun _ ha => ha, h.like.annotations⟩
  unfold described
  rw [← h.like.resolver]
  refine List.rel_foldl (fun o o' ho a a' ha => ho.annotate h ha.1 ha.2) ?_ hannotations
  refine List.rel_foldl (fun o o' ho x x' hx => ho.declare h hx.1 hx.2) ?_ hdeclarations
  exact ⟨rfl, Table.rekeyed_empty, Table.rekeyed_empty⟩

/-! ### What restrictions give -/

section Gains

variable {r : Reference} {owner : String}

namespace Correspond

/-- The name of a property does not depend on whether the reference to it is written out. -/
theorem propertyName_eq (ho : Correspond base out d o o') (h : d.WrittenOut base out d')
    (hr : r ∈ d.propertyReferences) :
    o'.propertyName d.resolver (r.writeOut base out) = o.propertyName d.resolver r := by
  have hread := ho.properties.findSome?_eq h.properties present_propertyReferences hr
  unfold propertyName property?
  rw [Reference.derivedName_writeOut]
  generalize (d.resolver.lookupKeys r).findSome? o.properties.find? = e? at hread
  cases e? with
  | none => rw [Option.map_eq_none_iff.1 hread]
  | some e =>
    obtain ⟨e', he', hcontent⟩ := Option.map_eq_some_iff.1 hread
    rw [he']
    dsimp only
    rw [(Prod.mk.inj hcontent).1]

/-- The comment of a property does not depend on whether the reference to it is written out. -/
theorem propertyComment?_eq (ho : Correspond base out d o o') (h : d.WrittenOut base out d')
    (hr : r ∈ d.propertyReferences) :
    o'.propertyComment? d.resolver (r.writeOut base out) = o.propertyComment? d.resolver r := by
  have hread := ho.properties.findSome?_eq h.properties present_propertyReferences hr
  unfold propertyComment? property?
  generalize (d.resolver.lookupKeys r).findSome? o.properties.find? = e? at hread
  cases e? with
  | none => rw [Option.map_eq_none_iff.1 hread]
  | some e =>
    obtain ⟨e', he', hcontent⟩ := Option.map_eq_some_iff.1 hread
    rw [he', Option.bind_some, Option.bind_some, PropertyEntry.comment?, PropertyEntry.comment?,
      (Prod.mk.inj hcontent).2]

theorem dataProperty_eq (ho : Correspond base out d o o') (h : d.WrittenOut base out d')
    (hr : r ∈ d.propertyReferences) (owner identifier identifier' datatype : String) :
    (o'.dataProperty d.resolver owner (r.writeOut base out) identifier' datatype).withoutIdentifier =
      (o.dataProperty d.resolver owner r identifier datatype).withoutIdentifier := by
  unfold dataProperty DataProperty.withoutIdentifier
  rw [ho.propertyName_eq h hr, ho.propertyComment?_eq h hr]

theorem dataSomeGain?_eq (ho : Correspond base out d o o') (h : d.WrittenOut base out d')
    {s s' : DataSome} (hlike : s.Like (.writingOut base out) s')
    (hr : s.property.present ∈ d.propertyReferences) :
    (dataSomeGain? d.resolver owner o' s').map Gain.withoutIdentifier =
      (dataSomeGain? d.resolver owner o s).map Gain.withoutIdentifier := by
  have hproperty : s'.property.present = s.property.present.writeOut base out := hlike.property
  unfold dataSomeGain?
  dsimp only
  rw [hproperty, eq_of_rel hlike.datatype?]
  rcases Reference.identifier?_writeOut base out s.property.present with
    ⟨hnone, hnone'⟩ | ⟨k, k', hk, hk'⟩
  · rw [hnone, hnone']
    rfl
  · rw [hk, hk', Option.bind_some, Option.bind_some, Option.map_map, Option.map_map]
    congr 1
    funext datatype
    exact congrArg Gain.data (ho.dataProperty_eq h hr owner k k' datatype)

theorem dataValueGain?_eq (ho : Correspond base out d o o') (h : d.WrittenOut base out d')
    {s s' : DataValue} (hlike : s.Like (.writingOut base out) s')
    (hr : s.property.present ∈ d.propertyReferences) :
    (dataValueGain? d.resolver owner o' s').map Gain.withoutIdentifier =
      (dataValueGain? d.resolver owner o s).map Gain.withoutIdentifier := by
  have hproperty : s'.property.present = s.property.present.writeOut base out := hlike.property
  unfold dataValueGain?
  dsimp only
  rw [hproperty, hlike.literal]
  rcases Reference.identifier?_writeOut base out s.property.present with
    ⟨hnone, hnone'⟩ | ⟨k, k', hk, hk'⟩
  · rw [hnone, hnone']
    rfl
  · rw [hk, hk']
    exact congrArg (some ∘ Gain.data) (ho.dataProperty_eq h hr owner k k' _)

theorem objectSomeGain?_eq (ho : Correspond base out d o o') (h : d.WrittenOut base out d')
    {s s' : ObjectSome} (hlike : s.Like (.writingOut base out) s')
    (hr : s.property.present ∈ d.propertyReferences) :
    (objectSomeGain? d.resolver owner o' s').map Gain.withoutIdentifier =
      (objectSomeGain? d.resolver owner o s).map Gain.withoutIdentifier := by
  have hproperty : s'.property.present = s.property.present.writeOut base out := hlike.property
  have htarget : s.target = s'.target := hlike.target
  have hfind : ∀ k, o'.find? k = o.find? k := fun k => by rw [find?, ho.classes, find?]
  unfold objectSomeGain?
  dsimp only
  rw [hproperty, ← htarget, ho.propertyName_eq h hr, ho.propertyComment?_eq h hr]
  rcases Reference.identifier?_writeOut base out s.property.present with
    ⟨hnone, hnone'⟩ | ⟨k, k', hk, hk'⟩
  · rw [hnone, hnone']
    rfl
  · rw [hk, hk', Option.bind_some, Option.bind_some]
    cases d.resolver.canonical? s.target.present with
    | none => rfl
    | some target =>
      rw [Option.bind_some, Option.bind_some, hfind]
      cases o.find? target <;> rfl

/-- What is the value of an object property has a type, or the reference to it is not written out. -/
theorem objectValueGain?_eq (ho : Correspond base out d o o') (h : d.WrittenOut base out d')
    {s s' : ObjectValue} (hlike : s.Like (.writingOut base out) s')
    (hr : s.property.present ∈ d.propertyReferences)
    (hi : s.individual.present ∈ d.individualReferences)
    (htyped : s.individual.present.writeOut base out ≠ s.individual.present →
      (o.individual? (d.resolver.lookupKeys s.individual.present)).bind (·.type) ≠ none) :
    (objectValueGain? d.resolver owner o' s').map Gain.withoutIdentifier =
      (objectValueGain? d.resolver owner o s).map Gain.withoutIdentifier := by
  have hproperty : s'.property.present = s.property.present.writeOut base out := hlike.property
  have hindividual : s'.individual.present = s.individual.present.writeOut base out :=
    hlike.individual
  have htype : (o'.individual?
        (d.resolver.lookupKeys (s.individual.present.writeOut base out))).bind (·.type) =
      (o.individual? (d.resolver.lookupKeys s.individual.present)).bind (·.type) := by
    have hread := ho.individuals.findSome?_eq h.individuals present_individualReferences hi
    have hbind := congrArg (·.bind id) hread
    simp only [Option.bind_map, Function.id_comp] at hbind
    exact hbind
  unfold objectValueGain?
  dsimp only
  rw [hproperty, hindividual, htype]
  rcases Reference.identifier?_writeOut base out s.property.present with
    ⟨hnone, hnone'⟩ | ⟨k, k', hk, hk'⟩
  · rw [hnone, hnone']
    rfl
  rcases Reference.identifier?_writeOut base out s.individual.present with
    ⟨hnone, hnone'⟩ | ⟨j, j', hj, hj'⟩
  · rw [hk, hk', hnone, hnone']
    rfl
  -- the identifier of the individual counts only where no type was noted, and there it is the same
  have hdatatype : ((o.individual? (d.resolver.lookupKeys s.individual.present)).bind (·.type)).getD j' =
      ((o.individual? (d.resolver.lookupKeys s.individual.present)).bind (·.type)).getD j := by
    by_cases hchanged : s.individual.present.writeOut base out = s.individual.present
    · rw [hchanged, hj] at hj'
      rw [Option.some.inj hj']
    · obtain ⟨type, htype⟩ := Option.ne_none_iff_exists'.1 (htyped hchanged)
      rw [htype, Option.getD_some, Option.getD_some]
  rw [hk, hk', hj, hj', Option.bind_some, Option.bind_some, Option.map_some, Option.map_some,
    hdatatype]
  exact congrArg (some ∘ Gain.data) (ho.dataProperty_eq h hr owner k k' _)

end Correspond

/-- What is given by corresponding restrictions is the same, if each gives the same. -/
theorem filterMap_gain_eq {α : Type} {R : α → α → Prop} {f g : α → Option Gain} {rs rs' : List α}
    (h : List.Forall₂ R rs rs')
    (hgain : ∀ s ∈ rs, ∀ s', R s s' →
      (g s').map Gain.withoutIdentifier = (f s).map Gain.withoutIdentifier) :
    (rs'.filterMap g).map Gain.withoutIdentifier = (rs.filterMap f).map Gain.withoutIdentifier := by
  induction h with
  | nil => rfl
  | @cons s s' rs rs' hs _ ih =>
    obtain ⟨hhead, htail⟩ := List.forall_mem_cons.1 hgain
    rw [List.map_filterMap, List.map_filterMap, List.filterMap_cons, List.filterMap_cons, hhead s' hs,
      ← List.map_filterMap, ← List.map_filterMap, ih htail]

theorem gainsOf_written {α : Type} {R : α → α → Prop}
    {gain? : String → Ontology → α → Option Gain} (hclasses : o'.classes = o.classes)
    (subject : Reference) {rs rs' : List α} (h : List.Forall₂ R rs rs')
    (hgain : ∀ owner, ∀ s ∈ rs, ∀ s', R s s' →
      (gain? owner o' s').map Gain.withoutIdentifier = (gain? owner o s).map Gain.withoutIdentifier) :
    (gainsOf rv o' subject gain? rs').map Gain.withoutIdentifier =
      (gainsOf rv o subject gain? rs).map Gain.withoutIdentifier := by
  unfold gainsOf
  rw [hclasses]
  cases (rv.canonical? subject.present).filter o.classes.contains with
  | none => rfl
  | some owner =>
    rw [Option.toList_some, List.flatMap_singleton, List.flatMap_singleton]
    exact filterMap_gain_eq h (hgain owner)

/-- What an axiom gives is the same after its references are written out. -/
theorem Correspond.gains_eq (ho : Correspond base out d o o') (h : d.WrittenOut base out d')
    {a a' : SubclassAxiom} (ha : a ∈ d.axioms) (hlike : a.Like (.writingOut base out) a')
    (htyped : ∀ s ∈ a.objectValue,
      s.individual.present.writeOut base out ≠ s.individual.present →
        (o.individual? (d.resolver.lookupKeys s.individual.present)).bind (·.type) ≠ none) :
    (gains d.resolver o' a').map Gain.withoutIdentifier =
      (gains d.resolver o a).map Gain.withoutIdentifier := by
  have hproperty : ∀ r ∈ a.properties, r.present ∈ d.propertyReferences := fun _ hr =>
    present_mem_propertyReferences ha hr
  have hshape := hlike.shape?
  unfold gains
  cases hs : a.shape? with
  | none =>
    rw [hs] at hshape
    generalize a'.shape? = shape'? at hshape
    cases hshape
    rfl
  | some shape =>
    have hof := a.isOf_of_shape? hs
    rw [hs] at hshape
    generalize a'.shape? = shape'? at hshape
    cases hshape with
    | some hshape =>
      cases hshape with
      | subclass => rfl
      | @dataSome subject _ rs _ hsubject hrs =>
        cases hsubject
        refine gainsOf_written ho.classes subject hrs fun owner s hs s' hlike => ?_
        have hmem : s ∈ a.dataSome := hof ▸ hs
        exact ho.dataSomeGain?_eq h hlike
          (hproperty _ (SubclassAxiom.mem_properties.2 (.inl ⟨s, hmem, rfl⟩)))
      | @dataValue subject _ rs _ hsubject hrs =>
        cases hsubject
        refine gainsOf_written ho.classes subject hrs fun owner s hs s' hlike => ?_
        have hmem : s ∈ a.dataValue := hof ▸ hs
        exact ho.dataValueGain?_eq h hlike
          (hproperty _ (SubclassAxiom.mem_properties.2 (.inr (.inl ⟨s, hmem, rfl⟩))))
      | @objectSome subject _ rs _ hsubject hrs =>
        cases hsubject
        refine gainsOf_written ho.classes subject hrs fun owner s hs s' hlike => ?_
        have hmem : s ∈ a.objectSome := hof ▸ hs
        exact ho.objectSomeGain?_eq h hlike
          (hproperty _ (SubclassAxiom.mem_properties.2 (.inr (.inr (.inl ⟨s, hmem, rfl⟩)))))
      | @objectValue subject _ rs _ hsubject hrs =>
        cases hsubject
        refine gainsOf_written ho.classes subject hrs fun owner s hs s' hlike => ?_
        have hmem : s ∈ a.objectValue := hof ▸ hs
        exact ho.objectValueGain?_eq h hlike
          (hproperty _ (SubclassAxiom.mem_properties.2 (.inr (.inr (.inr ⟨s, hmem, rfl⟩)))))
          (present_mem_individualReferences ha (List.mem_map_of_mem hmem)) (htyped s hmem)

end Gains

end Ontology

end OntologySchema
