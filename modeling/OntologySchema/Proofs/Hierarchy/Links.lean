import Mathlib.Logic.Relation
import OntologySchema.Ontology.Hierarchy

/-!
# Links between classes

A class names its parent, and it lists its children. Nothing in the type of an ontology makes the two
agree: an ontology may hold a class at a foreign key, a parent that does not know its child, or a child
that is not there. `WellFormed` says that all this fits together; then the children of a class are
exactly the classes that name it as their parent (`WellFormed.hasChild_iff`), and a cycle of the one
relation is a cycle of the other.
-/

namespace OntologySchema.Ontology

variable {o : Ontology}

/-- Every class stands at its own IRI. -/
def Keyed (o : Ontology) : Prop := ∀ k c, o.find? k = some c → c.iri = k

/-- The class at `k` names `p` as its parent. -/
def HasParent (o : Ontology) (k p : String) : Prop := ∃ c, o.find? k = some c ∧ c.parent = some p

/-- The class at `k` lists `q` as a child, and `q` is there. -/
def HasChild (o : Ontology) (k q : String) : Prop :=
  ∃ c d, o.find? k = some c ∧ q ∈ c.children ∧ o.find? q = some d

/-- No class is its own ancestor. -/
def Acyclic (o : Ontology) : Prop := ∀ k, ¬ Relation.TransGen o.HasParent k k

/-- The only reason why a walk may fail: the ontology has a cycle. -/
def CycleIn (o : Ontology) (e : HierarchyError) : Prop :=
  (∃ iri path, e = .cycle iri path) ∧ ¬ o.Acyclic

/-- What the classes of an ontology say of themselves and of each other is true. -/
structure WellFormed (o : Ontology) : Prop where
  keyed : o.Keyed
  /-- A parent is another class of the ontology, and it knows its child. -/
  parent_linked : ∀ {k c p}, o.find? k = some c → c.parent = some p →
    p ≠ c.iri ∧ ∃ d, o.find? p = some d ∧ c.iri ∈ d.children
  /-- A child is a class of the ontology, and it names its parent. -/
  child_linked : ∀ {k c q}, o.find? k = some c → q ∈ c.children →
    ∃ d, o.find? q = some d ∧ d.parent = some c.iri
  children_nodup : ∀ {k c}, o.find? k = some c → c.children.Nodup
  data_owned : ∀ {k c p}, o.find? k = some c → p ∈ c.dataProperties → p.owner = c.iri
  object_owned : ∀ {k c p}, o.find? k = some c → p ∈ c.objectProperties → p.owner = c.iri
  /-- A target is a class of the ontology, under the name that it has there. -/
  target_named : ∀ {k c p}, o.find? k = some c → p ∈ c.objectProperties →
    ∃ t, o.find? p.target = some t ∧ p.targetName = t.name

theorem isAbstract_iff {c : OntClass} : c.isAbstract = true ↔ c.children ≠ [] := by
  simp [OntClass.isAbstract]

theorem Keyed.find?_iri (hk : o.Keyed) {k : String} {c : OntClass} (h : o.find? k = some c) :
    o.find? c.iri = some c := by
  rw [hk k c h, h]

theorem Keyed.insert (hk : o.Keyed) (c : OntClass) : (o.insert c).Keyed := by
  intro k d hd
  rw [find?, Ontology.insert, Table.find?_insert] at hd
  split at hd
  · next he =>
    cases hd
    exact he.symm
  · exact hk k d hd

theorem keyed_foldl_insert (cs : List OntClass) (hk : o.Keyed) : (cs.foldl Ontology.insert o).Keyed := by
  induction cs generalizing o with
  | nil => exact hk
  | cons c cs ih => exact ih (hk.insert c)

/-- In a keyed ontology the classes are the values of their own IRIs. -/
theorem Keyed.mem_values_iff (hk : o.Keyed) {c : OntClass} :
    c ∈ o.classes.values ↔ o.find? c.iri = some c := by
  rw [Table.mem_values_iff]
  exact ⟨fun ⟨_, h⟩ => hk.find?_iri h, fun h => ⟨_, h⟩⟩

/-- Where every class ranks above its parent, no class is its own ancestor. -/
theorem acyclic_of_rank (hk : o.Keyed) (rank : String → Nat)
    (h : ∀ c ∈ o.classes.values, ∀ p ∈ c.parent, rank p < rank c.iri) : o.Acyclic := by
  have hstep : ∀ {k p}, o.HasParent k p → rank p < rank k := by
    rintro k p ⟨c, hc, hp⟩
    exact hk k c hc ▸ h c (Table.mem_values_iff.2 ⟨k, hc⟩) p hp
  have hrun : ∀ {k p}, Relation.TransGen o.HasParent k p → rank p < rank k := by
    intro k p hr
    induction hr with
    | single hs => exact hstep hs
    | tail _ hs ih => exact Nat.lt_trans (hstep hs) ih
  exact fun k hr => Nat.lt_irrefl _ (hrun hr)

namespace WellFormed

/-- Parents and children are one relation, read from either end. -/
theorem hasChild_iff (hw : o.WellFormed) {p k : String} : o.HasChild p k ↔ o.HasParent k p := by
  constructor
  · rintro ⟨c, d, hc, hk, -⟩
    obtain ⟨d, hd, hp⟩ := hw.child_linked hc hk
    exact ⟨d, hd, by rw [hp, hw.keyed p c hc]⟩
  · rintro ⟨c, hc, hp⟩
    obtain ⟨-, d, hd, hm⟩ := hw.parent_linked hc hp
    exact ⟨d, c, hd, hw.keyed k c hc ▸ hm, hc⟩

/-- A class is the child of one class at most. -/
theorem parent_unique (hw : o.WellFormed) {k₁ k₂ q : String} {c₁ c₂ : OntClass}
    (h₁ : o.find? k₁ = some c₁) (h₂ : o.find? k₂ = some c₂) (hq₁ : q ∈ c₁.children)
    (hq₂ : q ∈ c₂.children) : k₁ = k₂ := by
  obtain ⟨d₁, hd₁, hp₁⟩ := hw.child_linked h₁ hq₁
  obtain ⟨d₂, hd₂, hp₂⟩ := hw.child_linked h₂ hq₂
  obtain rfl : d₁ = d₂ := Option.some.inj (hd₁.symm.trans hd₂)
  rw [← hw.keyed _ _ h₁, ← hw.keyed _ _ h₂]
  exact Option.some.inj (hp₁.symm.trans hp₂)

theorem transGen_hasChild_iff (hw : o.WellFormed) {p k : String} :
    Relation.TransGen o.HasChild p k ↔ Relation.TransGen o.HasParent k p := by
  have hswap : o.HasChild = Function.swap o.HasParent := by
    funext p k
    exact propext hw.hasChild_iff
  rw [hswap, Relation.transGen_swap]

end WellFormed

end OntologySchema.Ontology
