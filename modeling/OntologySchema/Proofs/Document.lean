import Mathlib.Data.List.Forall2
import Mathlib.Data.Option.Basic
import OntologySchema.Document.Resolver
import OntologySchema.Log

/-!
# Documents that differ in their references

Two documents may say the same with other references: the parts of one match the parts of the other, and
where a part of the first has a reference, its match has a reference that is related to it. What the relation
is may depend on what the reference refers to (`Respelling`). An axiom keeps its shape
(`SubclassAxiom.Like.shape?`).
-/

namespace OntologySchema

/-- How references of one document are related to those of another, by what they refer to. -/
structure Respelling where
  ofClass : Reference → Reference → Prop := Eq
  ofProperty : Reference → Reference → Prop := Eq
  ofIndividual : Reference → Reference → Prop := Eq
  ofDatatype : Reference → Reference → Prop := Eq
  /-- The subjects of annotations, as they are written. -/
  ofSubject : Reference → Reference → Prop := Eq

variable {S : Respelling}

/-- The declarations declare the same in other references. -/
structure Declaration.Like (S : Respelling) (x x' : Declaration) : Prop where
  class? : Option.Rel S.ofClass x.class? x'.class?
  objectProperty? : Option.Rel S.ofProperty x.objectProperty? x'.objectProperty?
  dataProperty? : Option.Rel S.ofProperty x.dataProperty? x'.dataProperty?
  individual? : Option.Rel S.ofIndividual x.individual? x'.individual?

/-- The restrictions are the same in other references. -/
structure DataSome.Like (S : Respelling) (s s' : DataSome) : Prop where
  property : S.ofProperty s.property s'.property
  datatype? : Option.Rel S.ofDatatype s.datatype? s'.datatype?

/-- The restrictions are the same in other references. -/
structure DataValue.Like (S : Respelling) (s s' : DataValue) : Prop where
  property : S.ofProperty s.property s'.property
  literal : s.literal = s'.literal

/-- The restrictions are the same in other references. -/
structure ObjectSome.Like (S : Respelling) (s s' : ObjectSome) : Prop where
  property : S.ofProperty s.property s'.property
  target : S.ofClass s.target s'.target

/-- The restrictions are the same in other references. -/
structure ObjectValue.Like (S : Respelling) (s s' : ObjectValue) : Prop where
  property : S.ofProperty s.property s'.property
  individual : S.ofIndividual s.individual s'.individual

/-- The axioms are the same in other references. -/
structure SubclassAxiom.Like (S : Respelling) (a a' : SubclassAxiom) : Prop where
  classes : List.Forall₂ S.ofClass a.classes a'.classes
  dataSome : List.Forall₂ (DataSome.Like S) a.dataSome a'.dataSome
  dataValue : List.Forall₂ (DataValue.Like S) a.dataValue a'.dataValue
  objectSome : List.Forall₂ (ObjectSome.Like S) a.objectSome a'.objectSome
  objectValue : List.Forall₂ (ObjectValue.Like S) a.objectValue a'.objectValue

/-- The annotations say the same of related subjects. -/
structure Annotation.Like (S : Respelling) (a a' : Annotation) : Prop where
  kind : a.kind = a'.kind
  literal : a.literal = a'.literal
  writtenSubject : S.ofSubject a.writtenSubject a'.writtenSubject

/-- The documents say the same in other references, with the same prefixes and the same base. -/
structure Document.Like (S : Respelling) (d d' : Document) : Prop where
  resolver : d.resolver = d'.resolver
  declarations : List.Forall₂ (Declaration.Like S) d.declarations d'.declarations
  axioms : List.Forall₂ (SubclassAxiom.Like S) d.axioms d'.axioms
  annotations : List.Forall₂ (fun a a' => a.Like S a') d.annotations d'.annotations

/-- The shapes are the same in other references. -/
inductive AxiomShape.Like (S : Respelling) : AxiomShape → AxiomShape → Prop
  | subclass {s s' p p'} (hs : S.ofClass s s') (hp : S.ofClass p p') :
      Like S (.subclass s p) (.subclass s' p')
  | dataSome {s s' rs rs'} (hs : S.ofClass s s') (h : List.Forall₂ (DataSome.Like S) rs rs') :
      Like S (.dataSome s rs) (.dataSome s' rs')
  | dataValue {s s' rs rs'} (hs : S.ofClass s s') (h : List.Forall₂ (DataValue.Like S) rs rs') :
      Like S (.dataValue s rs) (.dataValue s' rs')
  | objectSome {s s' rs rs'} (hs : S.ofClass s s') (h : List.Forall₂ (ObjectSome.Like S) rs rs') :
      Like S (.objectSome s rs) (.objectSome s' rs')
  | objectValue {s s' rs rs'} (hs : S.ofClass s s') (h : List.Forall₂ (ObjectValue.Like S) rs rs') :
      Like S (.objectValue s rs) (.objectValue s' rs')

theorem eq_of_rel {α : Type} {a? a'? : Option α} (h : Option.Rel Eq a? a'?) : a? = a'? := by
  cases h with
  | none => rfl
  | some h => rw [h]

theorem forall₂_toList {α : Type} {R : α → α → Prop} {a? a'? : Option α} (h : Option.Rel R a? a'?) :
    List.Forall₂ R a?.toList a'?.toList := by
  cases h with
  | none => exact .nil
  | some h => exact .cons h .nil

theorem isEmpty_eq_of_forall₂ {α : Type} {R : α → α → Prop} {as as' : List α}
    (h : List.Forall₂ R as as') : as.isEmpty = as'.isEmpty := by
  cases h <;> rfl

/-- Axioms that are the same in other references have one shape, in these references. -/
theorem SubclassAxiom.Like.shape? {a a' : SubclassAxiom} (h : a.Like S a') :
    Option.Rel (AxiomShape.Like S) a.shape? a'.shape? := by
  obtain ⟨classes, ds, dv, os, ov⟩ := a
  obtain ⟨classes', ds', dv', os', ov'⟩ := a'
  obtain ⟨hclasses, hds, hdv, hos, hov⟩ := h
  unfold SubclassAxiom.shape?
  cases hclasses with
  | nil => exact .none
  | cons hsubject hrest =>
    cases hrest with
    | nil =>
      dsimp only at hds hdv hos hov ⊢
      rw [isEmpty_eq_of_forall₂ hds, isEmpty_eq_of_forall₂ hdv, isEmpty_eq_of_forall₂ hos,
        isEmpty_eq_of_forall₂ hov]
      split_ifs
      · exact .some (.dataSome hsubject hds)
      · exact .some (.dataValue hsubject hdv)
      · exact .some (.objectSome hsubject hos)
      · exact .some (.objectValue hsubject hov)
      · exact .none
    | cons hparent hrest =>
      cases hrest with
      | nil => exact .some (.subclass hsubject hparent)
      | cons => exact .none

/-- Steps that are the same on matching members make the same run. -/
theorem Logged.foldlM_eq_of_forall₂ {α β : Type} {R : α → α → Prop} {f : β → α → Logged β}
    (hf : ∀ b {a a'}, R a a' → f b a = f b a') {as as' : List α} (h : List.Forall₂ R as as') (b : β) :
    as.foldlM f b = as'.foldlM f b := by
  induction h generalizing b with
  | nil => rfl
  | cons ha _ ih =>
    rw [List.foldlM_cons, List.foldlM_cons, hf b ha]
    exact bind_congr ih

end OntologySchema
