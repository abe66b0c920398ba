import Mathlib.Logic.Relation
import OntologySchema.Proofs.Ontology.Passes

/-!
# What axioms do to the classes

The third pass changes classes in three ways only: it links two classes that are both there, neither of
them to itself and none to a second parent, or it gives a class a data property or an object property
that names this class as its owner. `Edit` lists the three; every axiom is a sequence of them
(`edits_attach`), whatever it looks like and whatever is skipped on the way.
-/

namespace OntologySchema.Ontology

open Relation (ReflTransGen)

variable {rv : Resolver} {o o' : Ontology}

/-- One change of the third pass. -/
inductive Edit (o : Ontology) : Ontology → Prop
  | link {child parent c d} (hc : o.find? child = some c) (hd : o.find? parent = some d)
      (hne : parent ≠ child) (hp : ∀ p, c.parent = some p → p = parent) :
      Edit o (o.link child parent)
  | data {owner c p} (hc : o.find? owner = some c) (ho : p.owner = owner) :
      Edit o (o.addDataProperty owner p)
  | object {owner c t p} (hc : o.find? owner = some c) (ho : p.owner = owner)
      (ht : o.find? p.target = some t) (hn : p.targetName = t.name) :
      Edit o (o.addObjectProperty owner p)

/-- Some changes of the third pass, one after the other. -/
abbrev Edits : Ontology → Ontology → Prop := ReflTransGen Edit

theorem Edit.keys_eq (h : Edit o o') : o'.classes.keys = o.classes.keys := by
  cases h <;> simp [Ontology.link, addDataProperty, addObjectProperty, modify]

theorem Edits.keys_eq (h : Edits o o') : o'.classes.keys = o.classes.keys := by
  induction h with
  | refl => rfl
  | tail _ he ih => rw [he.keys_eq, ih]

theorem Edits.exists_find? (h : Edits o o') {k : String} {c : OntClass}
    (hc : o.find? k = some c) : ∃ c', o'.find? k = some c' := by
  have hk : k ∈ o'.classes.keys := h.keys_eq ▸ Table.mem_keys_of_find? hc
  exact Table.mem_keys_iff.1 hk

/-- Steps that are edits make a run of edits. -/
theorem edits_foldl {α : Type} {step : Ontology → α → Logged Ontology}
    (hstep : ∀ o a, Edits o (step o a).value) :
    ∀ (as : List α) (o : Ontology), Edits o (as.foldl (fun o a => (step o a).value) o)
  | [], _ => .refl
  | a :: as, o => (hstep o a).trans (edits_foldl hstep as _)

/-! ### Axioms -/

theorem value_declaredClass (o : Ontology) (r : Reference) :
    (o.declaredClass rv r).value = (rv.canonical? r).filter o.classes.contains := by
  unfold declaredClass
  rw [Logged.value_bind, value_canonical]
  split
  · next h => simp [h]
  · next iri h =>
    rw [h, Option.filter_some]
    split <;> simp_all

theorem find?_of_value_declaredClass {r : Reference} {iri : String}
    (h : (o.declaredClass rv r).value = some iri) :
    rv.canonical? r = some iri ∧ ∃ c, o.find? iri = some c := by
  rw [value_declaredClass, Option.filter_eq_some_iff] at h
  exact ⟨h.1, contains_iff.1 h.2⟩

/-- An axiom of two classes links them or does nothing. -/
theorem edits_attachParent (subject parent : Reference) :
    Edits o (o.attachParent rv subject parent).value := by
  unfold attachParent
  split
  · exact .refl
  · rw [Logged.value_bind, value_canonical]
    split
    · exact .refl
    · next parentIri _ =>
      split
      · exact .refl
      · rw [Logged.value_bind]
        split
        · exact .refl
        · next child hchild =>
          obtain ⟨-, c, hc⟩ := find?_of_value_declaredClass hchild
          split
          · exact .refl
          · next hin =>
            split
            · exact .refl
            · next hne =>
              obtain ⟨d, hd⟩ : ∃ d, o.find? parentIri = some d :=
                contains_iff.1 (by simpa using hin)
              split
              · exact .refl
              · next hkept =>
                refine .single (.link hc hd hne fun p hp => ?_)
                by_contra hpne
                simp [hc, hp, Option.filter, hpne] at hkept

/-- A restriction gives its class a property, or is skipped. -/
theorem edits_attachDataSome {owner : String} {c : OntClass} (hc : o.find? owner = some c)
    (s : DataSome) : Edits o (attachDataSome rv owner o s).value := by
  unfold attachDataSome
  dsimp only
  split
  · exact .refl
  · split
    · exact .refl
    · exact .single (.data hc rfl)

theorem edits_attachDataValue {owner : String} {c : OntClass} (hc : o.find? owner = some c)
    (s : DataValue) : Edits o (attachDataValue rv owner o s).value := by
  unfold attachDataValue
  dsimp only
  split
  · exact .refl
  · exact .single (.data hc rfl)

theorem edits_attachObjectSome {owner : String} {c : OntClass} (hc : o.find? owner = some c)
    (s : ObjectSome) : Edits o (attachObjectSome rv owner o s).value := by
  unfold attachObjectSome
  dsimp only
  split
  · exact .refl
  · rw [Logged.value_bind, value_canonical]
    split
    · exact .refl
    · split
      · exact .refl
      · next t ht => exact .single (.object hc rfl ht rfl)

theorem edits_attachObjectValue {owner : String} {c : OntClass} (hc : o.find? owner = some c)
    (s : ObjectValue) : Edits o (attachObjectValue rv owner o s).value := by
  unfold attachObjectValue
  dsimp only
  split
  · exact .refl
  · split
    · exact .refl
    · exact .single (.data hc rfl)

/-- The restrictions of a class are taken in one after the other; the class stays where it is. -/
theorem edits_attachAll {α : Type} (subject : Reference)
    {attach : String → Ontology → α → Logged Ontology}
    (hattach : ∀ {o owner c}, o.find? owner = some c → ∀ a, Edits o (attach owner o a).value)
    (rs : List α) : Edits o (o.attachAll rv subject attach rs).value := by
  unfold attachAll
  rw [Logged.value_bind]
  split
  · exact .refl
  · next owner howner =>
    obtain ⟨-, c, hc⟩ := find?_of_value_declaredClass howner
    rw [Logged.value_foldlM]
    clear howner
    induction rs generalizing o c with
    | nil => exact .refl
    | cons r rs ih =>
      have hr := hattach hc r
      obtain ⟨c', hc'⟩ := hr.exists_find? hc
      exact hr.trans (ih c' hc')

/-- Every axiom is a sequence of edits. -/
theorem edits_attach (o : Ontology) (a : SubclassAxiom) : Edits o (attach rv o a).value := by
  unfold attach
  split
  · exact .refl
  · exact edits_attachParent _ _
  · exact edits_attachAll _ edits_attachDataSome _
  · exact edits_attachAll _ edits_attachDataValue _
  · exact edits_attachAll _ edits_attachObjectSome _
  · exact edits_attachAll _ edits_attachObjectValue _

end OntologySchema.Ontology
