import OntologySchema.Proofs.Document
import OntologySchema.Proofs.Ontology.Accounting

/-!
# Respellings that no step notices

What a step makes of a reference depends on little of it. Of a class reference it is the canonical IRI and
whether the top class is denoted; of any other it is the forms that are not empty. A respelling that keeps
this is faithful (`Respelling.Faithful`): each step does the same, and says the same, on parts that match, so
the documents have the same ontology (`ofDocument_eq_of_faithful`).
-/

namespace OntologySchema

/-- A respelling keeps what the steps of the three passes see of a reference. -/
structure Respelling.Faithful (rv : Resolver) (S : Respelling) : Prop where
  canonical {r r' : Reference} (h : S.ofClass r r') :
    Ontology.canonical rv r.present = Ontology.canonical rv r'.present
  top {r r' : Reference} (h : S.ofClass r r') :
    Ontology.DenotesTop rv r.present ↔ Ontology.DenotesTop rv r'.present
  property {r r' : Reference} (h : S.ofProperty r r') : r.present = r'.present
  individual {r r' : Reference} (h : S.ofIndividual r r') : r.present = r'.present
  datatype {r r' : Reference} (h : S.ofDatatype r r') : r.present = r'.present
  subject {a a' : Annotation} (h : S.ofSubject a.writtenSubject a'.writtenSubject) :
    a.subject = a'.subject

namespace Ontology

variable {rv : Resolver} {S : Respelling}

/-! ### Declarations and annotations -/

theorem declareProperty_faithful (hS : S.Faithful rv) (o : Ontology) {p? p'? : Option Reference}
    (h : Option.Rel S.ofProperty p? p'?) : o.declareProperty p? = o.declareProperty p'? := by
  cases h with
  | none => rfl
  | some h => simp only [declareProperty, hS.property h]

theorem declareIndividual_faithful (hS : S.Faithful rv) (o : Ontology) {i? i'? : Option Reference}
    (h : Option.Rel S.ofIndividual i? i'?) : o.declareIndividual i? = o.declareIndividual i'? := by
  cases h with
  | none => rfl
  | some h => simp only [declareIndividual, hS.individual h]

theorem declareOthers_faithful (hS : S.Faithful rv) (o : Ontology) {x x' : Declaration}
    (h : x.Like S x') : o.declareOthers x = o.declareOthers x' := by
  unfold declareOthers
  rw [declareProperty_faithful hS o h.dataProperty?]
  refine bind_congr fun o => ?_
  rw [declareProperty_faithful hS o h.objectProperty?]
  exact bind_congr fun o => declareIndividual_faithful hS o h.individual?

theorem declare_faithful (hS : S.Faithful rv) (o : Ontology) {x x' : Declaration} (h : x.Like S x') :
    declare rv o x = declare rv o x' := by
  have hothers : ∀ o : Ontology, o.declareOthers x = o.declareOthers x' :=
    fun o => declareOthers_faithful hS o h
  have hclass := h.class?
  unfold declare
  generalize x.class? = c? at hclass
  generalize x'.class? = c'? at hclass
  cases hclass with
  | none => exact hothers o
  | some hr => simp only [hS.canonical hr, hothers]

theorem annotate_faithful (hS : S.Faithful rv) (o : Ontology) {a a' : Annotation} (h : a.Like S a') :
    annotate rv o a = annotate rv o a' := by
  unfold annotate annotate? modifySubject?
  rw [h.kind, h.literal, hS.subject h.writtenSubject]

/-! ### Axioms -/

theorem declaredClass_faithful (hS : S.Faithful rv) (o : Ontology) {r r' : Reference}
    (h : S.ofClass r r') : o.declaredClass rv r.present = o.declaredClass rv r'.present := by
  rw [declaredClass, hS.canonical h, declaredClass]

theorem attachParent_faithful (hS : S.Faithful rv) (o : Ontology)
    {subject subject' parent parent' : Reference} (hs : S.ofClass subject subject')
    (hp : S.ofClass parent parent') :
    o.attachParent rv subject.present parent.present =
      o.attachParent rv subject'.present parent'.present := by
  by_cases htop : DenotesTop rv parent.present
  · rw [attachParent_of_top htop, attachParent_of_top ((hS.top hp).1 htop)]
  · -- no test for the top class succeeds, and all else depends on canonical IRIs
    have hwritten := (not_isTopClass htop).1
    have hwritten' := (not_isTopClass (mt (hS.top hp).2 htop)).1
    unfold attachParent
    rw [if_neg hwritten, if_neg hwritten', hS.canonical hp, declaredClass_faithful hS o hs]

theorem attachDataSome_faithful (hS : S.Faithful rv) (owner : String) (o : Ontology)
    {s s' : DataSome} (h : s.Like S s') : attachDataSome rv owner o s = attachDataSome rv owner o s' := by
  have hdatatype : s.datatype?.bind (datatypeName? rv) = s'.datatype?.bind (datatypeName? rv) := by
    have hd := h.datatype?
    generalize s.datatype? = d? at hd
    generalize s'.datatype? = d'? at hd
    cases hd with
    | none => rfl
    | some hd => simp only [Option.bind_some, datatypeName?, hS.datatype hd]
  unfold attachDataSome
  rw [hS.property h.property, hdatatype]

theorem attachDataValue_faithful (hS : S.Faithful rv) (owner : String) (o : Ontology)
    {s s' : DataValue} (h : s.Like S s') :
    attachDataValue rv owner o s = attachDataValue rv owner o s' := by
  unfold attachDataValue
  rw [hS.property h.property, h.literal]

theorem attachObjectSome_faithful (hS : S.Faithful rv) (owner : String) (o : Ontology)
    {s s' : ObjectSome} (h : s.Like S s') :
    attachObjectSome rv owner o s = attachObjectSome rv owner o s' := by
  unfold attachObjectSome
  rw [hS.property h.property, hS.canonical h.target]

theorem attachObjectValue_faithful (hS : S.Faithful rv) (owner : String) (o : Ontology)
    {s s' : ObjectValue} (h : s.Like S s') :
    attachObjectValue rv owner o s = attachObjectValue rv owner o s' := by
  unfold attachObjectValue
  rw [hS.property h.property, hS.individual h.individual]

theorem attachAll_faithful (hS : S.Faithful rv) {α : Type}
    {attach : String → Ontology → α → Logged Ontology} {R : α → α → Prop}
    (hattach : ∀ owner o {s s'}, R s s' → attach owner o s = attach owner o s')
    (o : Ontology) {subject subject' : Reference} (hs : S.ofClass subject subject') {rs rs' : List α}
    (h : List.Forall₂ R rs rs') :
    o.attachAll rv subject attach rs = o.attachAll rv subject' attach rs' := by
  unfold attachAll
  rw [declaredClass_faithful hS o hs]
  refine bind_congr fun owner? => ?_
  cases owner? with
  | none => rfl
  | some owner => exact Logged.foldlM_eq_of_forall₂ (hattach owner) h o

theorem attach_faithful (hS : S.Faithful rv) (o : Ontology) {a a' : SubclassAxiom} (h : a.Like S a') :
    attach rv o a = attach rv o a' := by
  unfold attach
  have hshape := h.shape?
  generalize a.shape? = shape at hshape
  generalize a'.shape? = shape' at hshape
  cases hshape with
  | none => rfl
  | some h =>
    cases h with
    | subclass hs hp => exact attachParent_faithful hS o hs hp
    | dataSome hs h => exact attachAll_faithful hS (attachDataSome_faithful hS) o hs h
    | dataValue hs h => exact attachAll_faithful hS (attachDataValue_faithful hS) o hs h
    | objectSome hs h => exact attachAll_faithful hS (attachObjectSome_faithful hS) o hs h
    | objectValue hs h => exact attachAll_faithful hS (attachObjectValue_faithful hS) o hs h

/-! ### Documents -/

/-- Documents that differ by a faithful respelling have the same ontology, with the same events. -/
theorem ofDocument_eq_of_faithful {d d' : Document} (hS : S.Faithful d.resolver) (h : d.Like S d')
    (root : String) : ofDocument root d = ofDocument root d' := by
  have hprefixes : d.prefixes = d'.prefixes := congrArg Resolver.prefixes h.resolver
  have hdeclarations := Logged.foldlM_eq_of_forall₂ (declare_faithful hS) h.declarations
  have hannotations := Logged.foldlM_eq_of_forall₂ (annotate_faithful hS) h.annotations
  have haxioms := Logged.foldlM_eq_of_forall₂ (attach_faithful hS) h.axioms
  unfold ofDocument
  simp only [← hprefixes, ← h.resolver, hdeclarations, hannotations, haxioms]

end Ontology

end OntologySchema
