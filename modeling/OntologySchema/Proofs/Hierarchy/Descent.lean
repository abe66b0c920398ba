import Mathlib.Data.List.Chain
import Mathlib.Data.List.Nodup
import OntologySchema.Proofs.Hierarchy.Links
import OntologySchema.Proofs.Outcome

/-!
# What a descent finds

`Gathers o path todo ls ls'` says how a descent that succeeds goes: below the classes in `todo`, reached
along `path`, it adds leaves to `ls` and ends with `ls'`. It has one rule for each kind of class that a
descent can meet; what holds of every descent is proved by going through the rules.

From this: the leaves of a class are the classes without children that can be reached from it along
children, none twice (`Gathers.mem_iff`, `Gathers.nodup`), and a descent that succeeds has not met a
class that can be reached from itself (`Gathers.not_cyclic`). A descent that fails reports the way down to a
class that is on that way already (`comesBack_of_leaves`).
-/

namespace OntologySchema.Ontology

open Relation (TransGen ReflTransGen)

variable {o : Ontology}

/-- A descent that succeeds. -/
inductive Gathers (o : Ontology) :
    List String → List String → List OntClass → List OntClass → Prop
  | done {path ls} : Gathers o path [] ls ls
  | unknown {path k todo ls ls'} (hf : o.find? k = none) (hr : Gathers o path todo ls ls') :
      Gathers o path (k :: todo) ls ls'
  | leaf {path k todo c ls ls'} (hf : o.find? k = some c) (hp : c.iri ∉ path)
      (hc : c.children = []) (hr : Gathers o path todo (addLeaf ls c) ls') :
      Gathers o path (k :: todo) ls ls'
  | inner {path k todo c ls mid ls'} (hf : o.find? k = some c) (hp : c.iri ∉ path)
      (hc : c.children ≠ []) (hd : Gathers o (c.iri :: path) c.children ls mid)
      (hr : Gathers o path todo mid ls') : Gathers o path (k :: todo) ls ls'

/-! ### Descending -/

/-- A descent that has a result goes by the rules. -/
theorem gathers_of_collectLeaves (path : List String) (parent : String) (todo : List String)
    (ls : List OntClass) : ∀ {ls'}, (o.collectLeaves path parent todo ls).result = .ok ls' →
      o.Gathers path todo ls ls' := by
  fun_induction collectLeaves o path parent todo ls with
  | case1 =>
    intro ls' h
    cases h
    exact .done
  | case2 path parent k todo ls hf ih =>
    intro ls' h
    obtain ⟨_, _, h⟩ := Attempt.result_bind_eq_ok.1 h
    exact .unknown hf (ih h)
  | case3 => intro ls' h; cases h
  | case4 path parent k todo ls c hf hp hc ihd ih =>
    intro ls' h
    obtain ⟨mid, hd, h⟩ := Attempt.result_bind_eq_ok.1 h
    exact .inner hf hp (isAbstract_iff.1 hc) (ihd hd) (ih mid h)
  | case5 path parent k todo ls c hf hp hc ih =>
    intro ls' h
    exact .leaf hf hp (by simpa [isAbstract_iff] using hc) (ih h)

/-! ### Coming back -/

/-- A walk along children. -/
structure ChildWalk (o : Ontology) (start : String) (walk : List String) : Prop where
  steps : walk.IsChain o.HasChild
  starts : walk.head? = some start

/-- A walk along children that ends where it has been once before, and is nowhere else twice. -/
structure ComesBack (o : Ontology) (start again : String) (walk : List String) : Prop
    extends o.ChildWalk start walk where
  ends : ∃ way, walk = way ++ [again] ∧ way.Nodup ∧ again ∈ way

theorem ChildWalk.concat {start k q : String} {way : List String}
    (h : o.ChildWalk start (way ++ [k])) (hs : o.HasChild k q) :
    o.ChildWalk start (way ++ [k] ++ [q]) where
  steps := h.steps.append (.singleton q) (by simpa using hs)
  starts := by simpa using h.starts

/-- A walk along children reaches its end. -/
theorem ChildWalk.reaches {start k : String} {way : List String}
    (h : o.ChildWalk start (way ++ [k])) : ReflTransGen o.HasChild start k := by
  have hr := List.relationReflTransGen_of_exists_isChain _ h.steps (by simp)
  rw [List.getLast_concat] at hr
  rwa [List.head_of_head?_eq_some h.starts] at hr

/-- Where a walk comes back, a class can be reached from itself. -/
theorem ComesBack.cyclic {start again : String} {walk : List String}
    (h : o.ComesBack start again walk) :
    ReflTransGen o.HasChild start again ∧ TransGen o.HasChild again again := by
  obtain ⟨way, rfl, -, hmem⟩ := h.ends
  obtain ⟨before, after, rfl⟩ := List.append_of_mem hmem
  rw [List.append_assoc, List.cons_append] at h
  obtain ⟨hbefore, hround⟩ := List.isChain_split.1 h.steps
  refine ⟨ChildWalk.reaches ⟨hbefore, ?_⟩, ?_⟩
  · simpa using h.starts
  · cases after with
    | nil => exact .single (List.isChain_pair.1 hround)
    | cons q after =>
      obtain ⟨hs, hrest⟩ := List.isChain_cons_cons.1 hround
      have hwalk : o.ChildWalk q (q :: after ++ [again]) := ⟨hrest, rfl⟩
      exact .head' hs hwalk.reaches

/-- A descent fails where the way down, from the start to a class that is still to be done, comes back. -/
theorem comesBack_of_collectLeaves (hk : o.Keyed) {start : String} (path : List String)
    (parent : String) (todo : List String) (ls : List OntClass) {e : HierarchyError} :
    path.Nodup →
      (∀ k ∈ todo, ∀ c, o.find? k = some c → o.ChildWalk start (path.reverse ++ [k])) →
      (o.collectLeaves path parent todo ls).result = .error e →
      ∃ again walk, e = .cycle again walk ∧ o.ComesBack start again walk := by
  fun_induction collectLeaves o path parent todo ls with
  | case1 => intro _ _ h; cases h
  | case2 path parent k todo ls hf ih =>
    intro hnodup hway h
    rcases Attempt.result_bind_eq_error.1 h with h | ⟨_, _, h⟩
    · cases h
    · exact ih hnodup (fun k' hk' => hway k' (List.mem_cons_of_mem _ hk')) h
  | case3 path parent k todo ls c hf hp =>
    intro hnodup hway h
    cases h
    refine ⟨c.iri, _, rfl, hk k c hf ▸ hway k List.mem_cons_self c hf, path.reverse, rfl, ?_⟩
    exact ⟨List.nodup_reverse.2 hnodup, List.mem_reverse.2 hp⟩
  | case4 path parent k todo ls c hf hp hc ihd ih =>
    intro hnodup hway h
    have hdown : ∀ k' ∈ c.children, ∀ d, o.find? k' = some d →
        o.ChildWalk start ((c.iri :: path).reverse ++ [k']) := by
      intro k' hk' d hd
      have hwalk := (hway k List.mem_cons_self c hf).concat ⟨c, d, hf, hk', hd⟩
      rwa [← hk k c hf, ← List.reverse_cons] at hwalk
    rcases Attempt.result_bind_eq_error.1 h with h | ⟨mid, _, h⟩
    · exact ihd (List.nodup_cons.2 ⟨hp, hnodup⟩) hdown h
    · exact ih mid hnodup (fun k' hk' => hway k' (List.mem_cons_of_mem _ hk')) h
  | case5 path parent k todo ls c hf hp hc ih =>
    intro hnodup hway h
    exact ih hnodup (fun k' hk' => hway k' (List.mem_cons_of_mem _ hk')) h

/-! ### Leaves below a class -/

/-- The class `l` has no children and can be reached from `k`. -/
structure LeafAt (o : Ontology) (k : String) (l : OntClass) : Prop where
  found : o.find? l.iri = some l
  childless : l.children = []
  reached : ReflTransGen o.HasChild k l.iri

theorem leafAt_iff_of_unknown {k : String} (hf : o.find? k = none) {l : OntClass} :
    o.LeafAt k l ↔ False := by
  rw [iff_false]
  rintro ⟨hl, -, hr⟩
  rcases hr.cases_head with rfl | ⟨_, ⟨c, _, hc, _⟩, _⟩
  · simp [hf] at hl
  · simp [hf] at hc

theorem leafAt_iff_of_leaf (hk : o.Keyed) {k : String} {c : OntClass} (hf : o.find? k = some c)
    (hc : c.children = []) {l : OntClass} : o.LeafAt k l ↔ l = c := by
  constructor
  · rintro ⟨hl, -, hr⟩
    rcases hr.cases_head with rfl | ⟨q, ⟨c', _, hc', hq, _⟩, _⟩
    · exact Option.some.inj (hl.symm.trans hf)
    · obtain rfl := Option.some.inj (hf.symm.trans hc')
      simp [hc] at hq
  · rintro rfl
    exact ⟨hk.find?_iri hf, hc, by rw [hk k l hf]⟩

/-- The leaves below an abstract class are those below its children. -/
theorem leafAt_iff_of_inner {k : String} {c : OntClass} (hf : o.find? k = some c)
    (hc : c.children ≠ []) {l : OntClass} : o.LeafAt k l ↔ ∃ q ∈ c.children, o.LeafAt q l := by
  constructor
  · rintro ⟨hl, hleaf, hr⟩
    rcases hr.cases_head with rfl | ⟨q, ⟨c', _, hc', hq, _⟩, hr⟩
    · obtain rfl := Option.some.inj (hl.symm.trans hf)
      exact absurd hleaf hc
    · obtain rfl := Option.some.inj (hf.symm.trans hc')
      exact ⟨q, hq, hl, hleaf, hr⟩
  · rintro ⟨q, hq, hl, hleaf, hr⟩
    obtain ⟨d, hd⟩ : ∃ d, o.find? q = some d := by
      rcases hr.cases_head with rfl | ⟨_, ⟨d, _, hd, _⟩, _⟩
      · exact ⟨l, hl⟩
      · exact ⟨d, hd⟩
    exact ⟨hl, hleaf, .head ⟨c, d, hf, hq, hd⟩ hr⟩

/-! ### What is gathered -/

/-- Classes of the ontology are told apart by their IRIs. -/
theorem addLeaf_eq {ls : List OntClass} {c : OntClass} (hls : ∀ l ∈ ls, o.find? l.iri = some l)
    (hc : o.find? c.iri = some c) : addLeaf ls c = if c ∈ ls then ls else ls ++ [c] := by
  have hany : ls.any (fun l => l.iri = c.iri) = true ↔ c ∈ ls := by
    rw [List.any_eq_true]
    constructor
    · rintro ⟨l, hl, he⟩
      have hfind := hls l hl
      rw [of_decide_eq_true he, hc] at hfind
      exact Option.some.inj hfind ▸ hl
    · exact fun h => ⟨c, h, decide_eq_true rfl⟩
  simp only [addLeaf, hany]

theorem mem_addLeaf {ls : List OntClass} {c : OntClass} (hls : ∀ l ∈ ls, o.find? l.iri = some l)
    (hc : o.find? c.iri = some c) {l : OntClass} : l ∈ addLeaf ls c ↔ l ∈ ls ∨ l = c := by
  rw [addLeaf_eq hls hc]
  split
  · next h => exact ⟨.inl, fun hl => hl.elim id fun he => he ▸ h⟩
  · simp

theorem subset_addLeaf (ls : List OntClass) (c : OntClass) : ls ⊆ addLeaf ls c := by
  unfold addLeaf
  split <;> simp

theorem nodup_addLeaf {ls : List OntClass} {c : OntClass} (h : (ls.map (·.iri)).Nodup) :
    ((addLeaf ls c).map (·.iri)).Nodup := by
  unfold addLeaf
  split
  · exact h
  · next hc =>
    rw [List.map_append, List.nodup_append]
    refine ⟨h, by simp, ?_⟩
    simp_all

namespace Gathers

variable {path todo : List String} {ls ls' : List OntClass}

theorem subset (h : o.Gathers path todo ls ls') : ls ⊆ ls' := by
  induction h with
  | done => exact List.Subset.refl _
  | unknown _ _ ih => exact ih
  | leaf _ _ _ _ ih => exact List.Subset.trans (subset_addLeaf _ _) ih
  | inner _ _ _ _ _ ihd ih => exact List.Subset.trans ihd ih

/-- No leaf is gathered twice. -/
theorem nodup (h : o.Gathers path todo ls ls') (hls : (ls.map (·.iri)).Nodup) :
    (ls'.map (·.iri)).Nodup := by
  induction h with
  | done => exact hls
  | unknown _ _ ih => exact ih hls
  | leaf _ _ _ _ ih => exact ih (nodup_addLeaf hls)
  | inner _ _ _ _ _ ihd ih => exact ih (ihd hls)

/-- What is gathered are the leaves of what is to be done. -/
theorem mem_iff (hk : o.Keyed) (h : o.Gathers path todo ls ls')
    (hls : ∀ l ∈ ls, o.find? l.iri = some l) {l : OntClass} :
    l ∈ ls' ↔ l ∈ ls ∨ ∃ k ∈ todo, o.LeafAt k l := by
  induction h generalizing l with
  | done => simp
  | unknown hf _ ih =>
    rw [ih hls]
    simp only [List.mem_cons, exists_eq_or_imp, leafAt_iff_of_unknown hf, false_or]
  | @leaf path k todo c ls ls' hf hp hc _ ih =>
    have hfc : o.find? c.iri = some c := hk.find?_iri hf
    have hls' : ∀ l ∈ addLeaf ls c, o.find? l.iri = some l := by
      intro l hl
      rcases (mem_addLeaf hls hfc).1 hl with hl | rfl
      · exact hls l hl
      · exact hfc
    rw [ih hls', mem_addLeaf hls hfc]
    simp only [List.mem_cons, exists_eq_or_imp, leafAt_iff_of_leaf hk hf hc, or_assoc]
  | @inner path k todo c ls mid ls' hf hp hc _ _ ihd ih =>
    have hmid : ∀ l ∈ mid, o.find? l.iri = some l := by
      intro l hl
      rcases (ihd hls).1 hl with hl | ⟨_, _, hleaf⟩
      · exact hls l hl
      · exact hleaf.found
    rw [ih hmid, ihd hls]
    simp only [List.mem_cons, exists_eq_or_imp, leafAt_iff_of_inner hf hc, or_assoc]

/-- A descent enters each class that it has to do. -/
theorem enter (h : o.Gathers path todo ls ls') {k : String} (hk : k ∈ todo) {c : OntClass}
    (hc : o.find? k = some c) :
    c.iri ∉ path ∧ ∃ ls₁ ls₂, o.Gathers (c.iri :: path) c.children ls₁ ls₂ := by
  induction h with
  | done => simp at hk
  | unknown hf _ ih =>
    rcases List.mem_cons.1 hk with rfl | hk
    · simp [hf] at hc
    · exact ih hk
  | leaf hf hp hleaf _ ih =>
    rcases List.mem_cons.1 hk with rfl | hk
    · obtain rfl := Option.some.inj (hf.symm.trans hc)
      exact ⟨hp, [], [], hleaf ▸ .done⟩
    · exact ih hk
  | inner hf hp _ hd _ _ ih =>
    rcases List.mem_cons.1 hk with rfl | hk
    · obtain rfl := Option.some.inj (hf.symm.trans hc)
      exact ⟨hp, _, _, hd⟩
    · exact ih hk

/-- A descent goes on to whatever can be reached, with the way there on its path. -/
theorem reach (hk : o.Keyed) (h : o.Gathers path todo ls ls') {k q : String} (hm : k ∈ todo)
    (hr : TransGen o.HasChild k q) :
    ∃ path' todo' ls₁ ls₂, k ∈ path' ∧ q ∈ todo' ∧ o.Gathers path' todo' ls₁ ls₂ := by
  induction hr with
  | single hs =>
    obtain ⟨c, d, hc, hq, _⟩ := hs
    obtain ⟨_, ls₁, ls₂, hg⟩ := h.enter hm hc
    exact ⟨_, _, ls₁, ls₂, by simp [hk k c hc], hq, hg⟩
  | tail _ hs ih =>
    obtain ⟨path', todo', _, _, hmem, hr, hg⟩ := ih
    obtain ⟨c, d, hc, hq, _⟩ := hs
    obtain ⟨_, ls₁, ls₂, hg⟩ := hg.enter hr hc
    exact ⟨_, _, ls₁, ls₂, List.mem_cons_of_mem _ hmem, hq, hg⟩

/-- A descent that succeeds does not meet a class that can be reached from itself. -/
theorem not_cyclic (hk : o.Keyed) (h : o.Gathers path todo ls ls') {k : String} (hm : k ∈ todo) :
    ¬ TransGen o.HasChild k k := by
  intro hr
  obtain ⟨c, hc⟩ : ∃ c, o.find? k = some c := by
    obtain ⟨_, ⟨c, _, hc, _⟩, _⟩ := TransGen.head'_iff.1 hr
    exact ⟨c, hc⟩
  obtain ⟨path', todo', _, _, hpath, htodo, hg⟩ := h.reach hk hm hr
  exact (hg.enter htodo hc).1 (hk k c hc ▸ hpath)

end Gathers

/-! ### Leaves -/

/-- The leaves of a class come from a descent to it. -/
theorem gathers_of_leaves {iri : String} {ls : List OntClass}
    (h : (o.leaves iri).result = .ok ls) : o.Gathers [] [iri] [] ls := by
  obtain ⟨_, _, h⟩ := Attempt.result_bind_eq_ok.1 h
  exact gathers_of_collectLeaves [] "" [iri] [] h

/-- The leaves of a class are the classes without children at or below it. -/
theorem mem_leaves_iff (hk : o.Keyed) {iri : String} {ls : List OntClass}
    (h : (o.leaves iri).result = .ok ls) {l : OntClass} :
    l ∈ ls ↔ o.LeafAt iri l := by
  rw [(gathers_of_leaves h).mem_iff hk (by simp)]
  simp

/-- Looking for the leaves of a class fails where a walk from the class comes back. -/
theorem comesBack_of_leaves (hk : o.Keyed) {iri : String} {c : OntClass}
    (hc : o.find? iri = some c) {e : HierarchyError} (h : (o.leaves iri).result = .error e) :
    ∃ again walk, e = .cycle again walk ∧ o.ComesBack iri again walk := by
  rcases Attempt.result_bind_eq_error.1 h with h | ⟨_, _, h⟩
  · simp [require, hc] at h
  · refine comesBack_of_collectLeaves hk [] "" [iri] [] .nil (fun k hm _ _ => ?_) h
    obtain rfl := List.mem_singleton.1 hm
    exact ⟨.singleton k, rfl⟩

/-- Looking for the leaves of a class fails by a cycle only, and only if there is one. -/
theorem leaves_fails (hw : o.WellFormed) {iri : String} {c : OntClass} (hc : o.find? iri = some c) :
    (o.leaves iri).FailsOnly o.CycleIn := by
  intro e h
  obtain ⟨again, walk, rfl, hback⟩ := comesBack_of_leaves hw.keyed hc h
  exact ⟨⟨_, _, rfl⟩, fun ha => ha again (hw.transGen_hasChild_iff.1 hback.cyclic.2)⟩

end OntologySchema.Ontology
