import OntologySchema.Proofs.Hierarchy.Ascent
import OntologySchema.Proofs.Hierarchy.Descent

/-!
# What a walk does not see

A walk goes where the classes it meets tell it to. If no class of a region of IRIs names an IRI outside
of it, a walk that starts in the region stays there, and two ontologies that hold the same in the region
are the same to it: not only is the result the same, so are the failures and what is reported on the way.
-/

namespace OntologySchema

/-- The IRIs that the class `c` names are in the region `R`. -/
structure OntClass.NamesOnly (R : String → Prop) (c : OntClass) : Prop where
  iri : R c.iri
  parent : ∀ {p}, c.parent = some p → R p
  child : ∀ {q}, q ∈ c.children → R q
  target : ∀ {p}, p ∈ c.objectProperties → R p.target

namespace Ontology

/-- The ontologies `o` and `o'` hold the same classes in the region `R`, and those name nothing outside
of it. -/
structure AgreeOn (R : String → Prop) (o o' : Ontology) : Prop where
  root_eq : o'.root = o.root
  prefixes_eq : o'.prefixes = o.prefixes
  find?_eq : ∀ {k}, R k → o'.find? k = o.find? k
  closed : ∀ {k c}, R k → o.find? k = some c → c.NamesOnly R

variable {R : String → Prop} {o o' : Ontology} {stop : OntClass → Bool} {c : OntClass} {iri : String}

/-! ### Climbing -/

theorem AgreeOn.climb_eq (h : AgreeOn R o o') (met : List String) (hc : c.NamesOnly R) :
    o'.climb stop met c = o.climb stop met c := by
  fun_induction climb o stop met c with
  | case1 met c hs => rw [climb, if_pos hs]
  | case2 met c hs hp => rw [climb, if_neg hs]; simp only [hp]
  | case3 met c hs p hp hm => rw [climb, if_neg hs]; simp only [hp, dif_pos hm]
  | case4 met c hs p hp hm hf =>
    exact climb_of_missing hs hp hm ((h.find?_eq (hc.parent hp)).trans hf)
  | case5 met c hs p hp hm d hf above ih =>
    rw [climb_of_found hs hp hm ((h.find?_eq (hc.parent hp)).trans hf),
      ih (h.closed (hc.parent hp) hf)]

/-- A climb meets only classes of the region. -/
theorem AgreeOn.namesOnly_of_climb (h : AgreeOn R o o') (met : List String) (hc : c.NamesOnly R) :
    ∀ a ∈ (o.climb stop met c).1, a.NamesOnly R := by
  fun_induction climb o stop met c with
  | case1 | case2 | case3 | case4 => simpa using hc
  | case5 met c hs p hp hm d hf above ih =>
    exact List.forall_mem_cons.2 ⟨hc, ih (h.closed (hc.parent hp) hf)⟩

theorem AgreeOn.isRoot_eq (h : AgreeOn R o o') : o'.isRoot = o.isRoot := by
  funext c
  rw [isRoot, isRoot, h.root_eq, h.prefixes_eq]

theorem AgreeOn.walkUp_eq (h : AgreeOn R o o') (hc : c.NamesOnly R) :
    o'.walkUp stop c = o.walkUp stop c := by
  rw [walkUp, walkUp, h.climb_eq [c.iri] hc]

/-! ### The walks that are asked for -/

open Attempt

theorem AgreeOn.ancestry_eq (h : AgreeOn R o o') (hi : R iri) : o'.ancestry iri = o.ancestry iri := by
  rw [ancestry, ancestry, require, require, h.find?_eq hi]
  refine bind_congr_of_result fun c hc => h.walkUp_eq (h.closed hi ?_)
  exact require_eq_ok_iff.1 hc

theorem AgreeOn.typeChain_eq (h : AgreeOn R o o') (hi : R iri) :
    o'.typeChain iri = o.typeChain iri := by
  rw [typeChain, typeChain, h.ancestry_eq hi]

theorem AgreeOn.parentIris_eq (h : AgreeOn R o o') (hi : R iri) :
    o'.parentIris iri = o.parentIris iri := by
  rw [parentIris, parentIris, h.ancestry_eq hi]

theorem AgreeOn.isAtOrBelowRoot_eq (h : AgreeOn R o o') (hi : R iri) :
    o'.isAtOrBelowRoot iri = o.isAtOrBelowRoot iri := by
  rw [isAtOrBelowRoot, isAtOrBelowRoot, h.find?_eq hi]
  split
  · rfl
  · next c hc => rw [h.walkUp_eq (h.closed hi hc), h.isRoot_eq]

theorem AgreeOn.inheritanceChain_eq (h : AgreeOn R o o') (hi : R iri) :
    o'.inheritanceChain iri = o.inheritanceChain iri := by
  rw [inheritanceChain, inheritanceChain, h.find?_eq hi]
  split
  · rfl
  · next c hc => rw [h.isRoot_eq, h.walkUp_eq (h.closed hi hc)]

/-- A class of the region inherits from classes of the region only. -/
theorem AgreeOn.namesOnly_of_inheritanceChain (h : AgreeOn R o o') (hi : R iri)
    {chain : List OntClass} (hchain : (o.inheritanceChain iri).result = .ok chain) :
    ∀ a ∈ chain, a.NamesOnly R := by
  unfold inheritanceChain at hchain
  split at hchain
  · obtain ⟨_, _, hchain⟩ := result_bind_eq_ok.1 hchain
    cases hchain
    exact fun _ ha => (List.not_mem_nil ha).elim
  · next c hc =>
    obtain ⟨rfl, -⟩ := climb_of_walkUp hchain
    exact h.namesOnly_of_climb [c.iri] (h.closed hi hc)

theorem AgreeOn.allDataProperties_eq (h : AgreeOn R o o') (hi : R iri) :
    o'.allDataProperties iri = o.allDataProperties iri := by
  rw [allDataProperties, allDataProperties, h.inheritanceChain_eq hi]

theorem AgreeOn.allObjectProperties_eq (h : AgreeOn R o o') (hi : R iri) :
    o'.allObjectProperties iri = o.allObjectProperties iri := by
  rw [allObjectProperties, allObjectProperties, h.inheritanceChain_eq hi]

/-! ### Descending -/

theorem AgreeOn.collectLeaves_eq (h : AgreeOn R o o') (path : List String) (parent : String)
    (todo : List String) (leaves : List OntClass) (htodo : ∀ k ∈ todo, R k) :
    o'.collectLeaves path parent todo leaves = o.collectLeaves path parent todo leaves := by
  fun_induction collectLeaves o path parent todo leaves with
  | case1 path parent leaves => rw [collectLeaves]
  | case2 path parent k todo leaves hf ih =>
    obtain ⟨hk, htodo⟩ := List.forall_mem_cons.1 htodo
    rw [collectLeaves_of_unknown ((h.find?_eq hk).trans hf), ih htodo]
  | case3 path parent k todo leaves c hf hp =>
    have hk := List.forall_mem_cons.1 htodo |>.1
    rw [collectLeaves_of_found ((h.find?_eq hk).trans hf), if_pos hp]
  | case4 path parent k todo leaves c hf hp hc ihd ih =>
    obtain ⟨hk, htodo⟩ := List.forall_mem_cons.1 htodo
    have hchildren : ∀ q ∈ c.children, R q := fun q hq => (h.closed hk hf).child hq
    rw [collectLeaves_of_found ((h.find?_eq hk).trans hf), if_neg hp, if_pos hc, ihd hchildren]
    exact bind_congr_of_result fun mid _ => ih mid htodo
  | case5 path parent k todo leaves c hf hp hc ih =>
    obtain ⟨hk, htodo⟩ := List.forall_mem_cons.1 htodo
    rw [collectLeaves_of_found ((h.find?_eq hk).trans hf), if_neg hp, if_neg hc, ih htodo]

theorem AgreeOn.leaves_eq (h : AgreeOn R o o') (hi : R iri) : o'.leaves iri = o.leaves iri := by
  rw [leaves, leaves, require, require, h.find?_eq hi]
  refine bind_congr_of_result fun _ _ => h.collectLeaves_eq [] "" [iri] [] fun k hk => ?_
  rw [List.mem_singleton.1 hk]
  exact hi

/-- What can be reached from the region along children is in the region. -/
theorem AgreeOn.region_of_reached (h : AgreeOn R o o') {k q : String} (hk : R k)
    (hr : Relation.ReflTransGen o.HasChild k q) : R q := by
  induction hr with
  | refl => exact hk
  | tail _ hstep ih =>
    obtain ⟨c, _, hc, hq, _⟩ := hstep
    exact (h.closed ih hc).child hq

/-- A class of the region has only classes of the region as leaves. -/
theorem AgreeOn.region_of_mem_leaves (h : AgreeOn R o o') (hk : o.Keyed) (hi : R iri)
    {leaves : List OntClass} (hl : (o.leaves iri).result = .ok leaves) {leaf : OntClass}
    (hleaf : leaf ∈ leaves) : R leaf.iri :=
  h.region_of_reached hi ((mem_leaves_iff hk hl).1 hleaf).reached

end Ontology

end OntologySchema
