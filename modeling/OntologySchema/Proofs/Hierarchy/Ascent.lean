import OntologySchema.Proofs.Hierarchy.Links
import OntologySchema.Proofs.Outcome

/-!
# What a climb finds

A class, its parent, the parent's parent and so on, up to where a climb is told to stop or where no
parent is left, is its *lineage*. A class has at most one lineage, and it has none exactly when its
parents lead into a cycle in front of every stop.

`walkUp` keeps a list of what it has met and may give up; the lineage knows of neither. The two agree:
a walk has a result just when there is a lineage, and the lineage is the result (`walkUp_eq_ok_iff`).
The only failure of a walk is a cycle, and only an ontology with a cycle has it.
-/

namespace OntologySchema.Ontology

variable {o : Ontology} {stop : OntClass → Bool}

/-- The parent of a class, if the ontology has it. -/
def parent? (o : Ontology) (c : OntClass) : Option OntClass := c.parent.bind o.find?

/-- A class and its ancestors, the nearest first, up to the first at which to stop. -/
inductive Lineage (o : Ontology) (stop : OntClass → Bool) : OntClass → List OntClass → Prop
  | stopped {c} (hs : stop c = true) : Lineage o stop c [c]
  | ended {c} (hp : o.parent? c = none) : Lineage o stop c [c]
  | up {c d ds} (hs : stop c = false) (hp : o.parent? c = some d) (hl : Lineage o stop d ds) :
      Lineage o stop c (c :: ds)

namespace Lineage

/-- Where a climb stops or has no parent to go to, the lineage is the class alone. -/
theorem eq_singleton {c : OntClass} {l : List OntClass} (h : o.Lineage stop c l)
    (hc : stop c = true ∨ o.parent? c = none) : l = [c] := by
  cases h with
  | stopped => rfl
  | ended => rfl
  | up hs hp _ => simp_all

/-- Where a climb goes on, the lineage of the parent follows. -/
theorem eq_cons {c d : OntClass} {l : List OntClass} (h : o.Lineage stop c l)
    (hs : stop c = false) (hp : o.parent? c = some d) : ∃ ds, l = c :: ds ∧ o.Lineage stop d ds := by
  cases h with
  | stopped hs' => simp_all
  | ended hp' => simp_all
  | up _ hp' hl =>
    obtain rfl := Option.some.inj (hp.symm.trans hp')
    exact ⟨_, rfl, hl⟩

theorem unique {c : OntClass} {l l' : List OntClass} (h : o.Lineage stop c l)
    (h' : o.Lineage stop c l') : l = l' := by
  induction h generalizing l' with
  | stopped hs => exact (h'.eq_singleton (.inl hs)).symm
  | ended hp => exact (h'.eq_singleton (.inr hp)).symm
  | up hs hp _ ih =>
    obtain ⟨ds', rfl, hl'⟩ := h'.eq_cons hs hp
    rw [ih hl']

theorem exists_eq_cons {c : OntClass} {l : List OntClass} (h : o.Lineage stop c l) :
    ∃ ds, l = c :: ds := by
  cases h <;> exact ⟨_, rfl⟩

/-- A lineage that stops somewhere holds the members of the whole lineage that have no stop before them. -/
theorem mem_iff_of_stop {c : OntClass} {l whole : List OntClass} (h : o.Lineage stop c l)
    (hw : o.Lineage (fun _ => false) c whole) {a : OntClass} :
    a ∈ l ↔ ∃ below above, whole = below ++ a :: above ∧ ∀ b ∈ below, stop b = false := by
  induction h generalizing whole with
  | @stopped c hs =>
    obtain ⟨above, rfl⟩ := hw.exists_eq_cons
    rw [List.mem_singleton]
    constructor
    · rintro rfl
      exact ⟨[], above, rfl, by simp⟩
    · rintro ⟨_ | ⟨b, below⟩, _, he, hbelow⟩
      · exact (List.cons.inj he).1.symm
      · have hb := hbelow b List.mem_cons_self
        rw [← (List.cons.inj he).1, hs] at hb
        cases hb
  | @ended c hp =>
    obtain rfl := hw.eq_singleton (.inr hp)
    rw [List.mem_singleton]
    constructor
    · rintro rfl
      exact ⟨[], [], rfl, by simp⟩
    · rintro ⟨_ | ⟨b, below⟩, _, he, -⟩
      · exact (List.cons.inj he).1.symm
      · simp at he
  | @up c d ds hs hp _ ih =>
    obtain ⟨rest, rfl, hrest⟩ := hw.eq_cons rfl hp
    rw [List.mem_cons, ih hrest]
    constructor
    · rintro (rfl | ⟨below, above, rfl, hbelow⟩)
      · exact ⟨[], rest, rfl, by simp⟩
      · exact ⟨c :: below, above, rfl, List.forall_mem_cons.2 ⟨hs, hbelow⟩⟩
    · rintro ⟨_ | ⟨b, below⟩, above, he, hbelow⟩
      · exact .inl (List.cons.inj he).1.symm
      · exact .inr ⟨below, above, (List.cons.inj he).2, (List.forall_mem_cons.1 hbelow).2⟩

/-- A lineage that stops nowhere holds exactly the ancestors of its class. -/
theorem mem_iff (hk : o.Keyed) {c : OntClass} {l : List OntClass}
    (h : o.Lineage (fun _ => false) c l) (hc : o.find? c.iri = some c) {a : OntClass} :
    a ∈ l ↔ o.find? a.iri = some a ∧ Relation.ReflTransGen o.HasParent c.iri a.iri := by
  induction h with
  | stopped hs => simp at hs
  | @ended c hp =>
    rw [List.mem_singleton]
    refine ⟨fun h => by rw [h]; exact ⟨hc, .refl⟩, fun ⟨ha, hr⟩ => ?_⟩
    rcases hr.cases_head with he | ⟨p, ⟨c', hc', hp'⟩, hr'⟩
    · rw [← he, hc] at ha
      exact (Option.some.inj ha).symm
    · obtain rfl := Option.some.inj (hc.symm.trans hc')
      -- the ancestor `a` is there, so the parent that leads to it would be there too
      have hfound : ∃ d, o.find? p = some d := by
        rcases hr'.cases_head with he | ⟨_, ⟨d, hd, _⟩, _⟩
        · exact ⟨a, he ▸ ha⟩
        · exact ⟨d, hd⟩
      obtain ⟨d, hd⟩ := hfound
      simp [parent?, hp', hd] at hp
  | @up c d ds _ hp _ ih =>
    obtain ⟨p, hcp, hd⟩ := Option.bind_eq_some_iff.1 hp
    have hdi : d.iri = p := hk p d hd
    rw [List.mem_cons, ih (hdi ▸ hd)]
    constructor
    · rintro (rfl | ⟨ha, hr⟩)
      · exact ⟨hc, .refl⟩
      · exact ⟨ha, .head ⟨c, hc, hcp⟩ (hdi ▸ hr)⟩
    · rintro ⟨ha, hr⟩
      rcases hr.cases_head with he | ⟨q, ⟨c', hc', hq⟩, hr'⟩
      · rw [← he, hc] at ha
        exact .inl (Option.some.inj ha).symm
      · obtain rfl := Option.some.inj (hc.symm.trans hc')
        obtain rfl := Option.some.inj (hcp.symm.trans hq)
        exact .inr ⟨ha, hdi ▸ hr'⟩

/-- The classes of a lineage are classes of the ontology. -/
theorem found (hk : o.Keyed) {c : OntClass} {l : List OntClass} (h : o.Lineage stop c l)
    (hc : o.find? c.iri = some c) : ∀ a ∈ l, o.find? a.iri = some a := by
  induction h with
  | stopped | ended =>
    intro a ha
    rwa [List.mem_singleton.1 ha]
  | up _ hp _ ih =>
    obtain ⟨_, _, hd⟩ := Option.bind_eq_some_iff.1 hp
    exact List.forall_mem_cons.2 ⟨hc, ih (hk.find?_iri hd)⟩

end Lineage

/-! ### Climbing -/

/-- A climb that ends otherwise than in a cycle has met the lineage. -/
theorem lineage_of_climb (met : List String) (c : OntClass) :
    (∀ p, (o.climb stop met c).2 ≠ .cycle p) → o.Lineage stop c (o.climb stop met c).1 := by
  fun_induction climb o stop met c with
  | case1 met c hs => exact fun _ => .stopped hs
  | case2 met c hs hp => exact fun _ => .ended (by simp [parent?, hp])
  | case3 met c hs p hp hm => exact fun h => absurd rfl (h p)
  | case4 met c hs p hp hm hf => exact fun _ => .ended (by simp [parent?, hp, hf])
  | case5 met c hs p hp hm d hf above ih =>
    exact fun h => .up (by simpa using hs) (by simp [parent?, hp, hf]) (ih h)

/-- A climb meets the whole lineage, if none of what it has met before lies on it: the lineages of
those classes are not shorter. -/
theorem climb_of_lineage (met : List String) (c : OntClass) :
    ∀ {l}, o.Lineage stop c l → (∀ k ∈ met, ∃ e, o.find? k = some e ∧
        ∀ l', o.Lineage stop e l' → l.length ≤ l'.length) →
      (o.climb stop met c).1 = l ∧ ∀ p, (o.climb stop met c).2 ≠ .cycle p := by
  fun_induction climb o stop met c with
  | case1 met c hs =>
    intro l h _
    simp [h.eq_singleton (.inl hs)]
  | case2 met c hs hp =>
    intro l h _
    simp [h.eq_singleton (.inr (by simp [parent?, hp]))]
  | case3 met c hs p hp hm =>
    -- the lineage of what was met at `p` would be a part of itself
    intro l h hmet
    obtain ⟨e, he, hle⟩ := hmet p hm
    obtain ⟨ds, rfl, hl⟩ := h.eq_cons (by simpa using hs) (by simpa [parent?, hp] using he)
    exact absurd (hle ds hl) (by simp)
  | case4 met c hs p hp hm hf =>
    intro l h _
    simp [h.eq_singleton (.inr (by simp [parent?, hp, hf]))]
  | case5 met c hs p hp hm d hf above =>
    rename_i ih
    intro l h hmet
    obtain ⟨ds, rfl, hl⟩ := h.eq_cons (by simpa using hs) (by simpa [parent?, hp] using hf)
    have hmet' : ∀ k ∈ p :: met, ∃ e, o.find? k = some e ∧
        ∀ l', o.Lineage stop e l' → ds.length ≤ l'.length := by
      intro k hk
      rcases List.mem_cons.1 hk with rfl | hk
      · exact ⟨d, hf, fun l' hl' => Nat.le_of_eq (congrArg _ (hl.unique hl'))⟩
      · obtain ⟨e, he, hle⟩ := hmet k hk
        exact ⟨e, he, fun l' hl' => Nat.le_of_succ_le (hle l' hl')⟩
    obtain ⟨h₁, h₂⟩ := ih hl hmet'
    exact ⟨by rw [h₁], h₂⟩

/-- A climb from a class whose descendants are all that it has met does not run into a cycle, if there is
none. -/
theorem climb_ne_cycle (ha : o.Acyclic) (hk : o.Keyed) (met : List String) (c : OntClass)
    (hc : o.find? c.iri = some c)
    (hmet : ∀ k ∈ met, Relation.ReflTransGen o.HasParent k c.iri) (p : String) :
    (o.climb stop met c).2 ≠ .cycle p := by
  fun_induction climb o stop met c with
  | case1 => simp
  | case2 => simp
  | case3 met c hs q hp hm => exact absurd (.tail' (hmet q hm) ⟨c, hc, hp⟩) (ha q)
  | case4 => simp
  | case5 met c hs q hp hm d hf above ih =>
    have hd : d.iri = q := hk q d hf
    refine ih (hd ▸ hf) fun k hkm => ?_
    rcases List.mem_cons.1 hkm with rfl | hkm
    · rw [hd]
    · exact hd ▸ (hmet k hkm).tail ⟨c, hc, hp⟩

/-! ### Walking up -/

/-- What a walk makes of a climb. -/
theorem result_walkUp (c : OntClass) :
    (o.walkUp stop c).result =
      match o.climb stop [c.iri] c with
      | (chain, .cycle p) => .error (.cycle p (chain.map (·.iri) ++ [p]))
      | (chain, _) => .ok chain := by
  unfold walkUp
  rcases o.climb stop [c.iri] c with ⟨chain, _ | ⟨child, p⟩ | p⟩ <;> rfl

/-- A walk that has a result has not met a cycle on its climb. -/
theorem climb_of_walkUp {c : OntClass} {l : List OntClass} (h : (o.walkUp stop c).result = .ok l) :
    (o.climb stop [c.iri] c).1 = l ∧ ∀ p, (o.climb stop [c.iri] c).2 ≠ .cycle p := by
  rw [result_walkUp] at h
  split at h
  · cases h
  · next chain ending hne heq =>
    cases h
    rw [heq]
    exact ⟨rfl, fun p hp => hne p hp⟩

/-- A walk gives the lineage, and fails if there is none. -/
theorem walkUp_eq_ok_iff {c : OntClass} (hc : o.find? c.iri = some c) {l : List OntClass} :
    (o.walkUp stop c).result = .ok l ↔ o.Lineage stop c l := by
  constructor
  · intro h
    obtain ⟨rfl, hne⟩ := climb_of_walkUp h
    exact lineage_of_climb [c.iri] c hne
  · intro h
    obtain ⟨h₁, h₂⟩ := climb_of_lineage [c.iri] c h fun k hk =>
      ⟨c, List.mem_singleton.1 hk ▸ hc, fun l' hl' => Nat.le_of_eq (congrArg _ (h.unique hl'))⟩
    rw [result_walkUp]
    split
    · next chain p heq => exact absurd (by rw [heq]) (h₂ p)
    · next chain ending _ heq => rw [← h₁, heq]

/-- A walk fails by a cycle only, and only if the ontology has one. -/
theorem walkUp_fails (hk : o.Keyed) {c : OntClass} (hc : o.find? c.iri = some c) :
    (o.walkUp stop c).FailsOnly o.CycleIn := by
  intro e h
  rw [result_walkUp] at h
  split at h
  · next chain p heq =>
    cases h
    have hcycle : (o.climb stop [c.iri] c).2 = .cycle p := by rw [heq]
    refine ⟨⟨_, _, rfl⟩, fun ha => ?_⟩
    refine climb_ne_cycle ha hk [c.iri] c hc (fun k hkm => ?_) p hcycle
    rw [List.mem_singleton.1 hkm]
  · cases h

/-! ### The walks that are asked for -/

open Attempt

theorem require_eq_ok_iff {iri : String} {c : OntClass} :
    o.require iri = .ok c ↔ o.find? iri = some c := by
  unfold require
  split <;> simp_all

theorem result_ancestry {iri : String} {c : OntClass} (hc : o.find? iri = some c) :
    (o.ancestry iri).result = (o.walkUp (fun _ => false) c).result :=
  result_bind_of_ok (require_eq_ok_iff.2 hc)

theorem isAtOrBelowRoot_of_found {iri : String} {c : OntClass} (hc : o.find? iri = some c) :
    o.isAtOrBelowRoot iri = do return (← o.walkUp (fun _ => false) c).any o.isRoot := by
  unfold isAtOrBelowRoot
  split
  · next hnone => cases hnone.symm.trans hc
  · next c' hc' => rw [Option.some.inj (hc'.symm.trans hc)]

theorem inheritanceChain_of_found {iri : String} {c : OntClass} (hc : o.find? iri = some c) :
    o.inheritanceChain iri = o.walkUp o.isRoot c := by
  unfold inheritanceChain
  split
  · next hnone => cases hnone.symm.trans hc
  · next c' hc' => rw [Option.some.inj (hc'.symm.trans hc)]

/-- The ancestry of a class is its lineage to the top. -/
theorem ancestry_eq_ok_iff (hk : o.Keyed) {iri : String} {l : List OntClass} :
    (o.ancestry iri).result = .ok l ↔
      ∃ c, o.find? iri = some c ∧ o.Lineage (fun _ => false) c l := by
  simp only [ancestry, result_bind_eq_ok, result_mk_pure, require_eq_ok_iff]
  constructor
  · rintro ⟨c, hc, h⟩
    exact ⟨c, hc, (walkUp_eq_ok_iff (hk.find?_iri hc)).1 h⟩
  · rintro ⟨c, hc, h⟩
    exact ⟨c, hc, (walkUp_eq_ok_iff (hk.find?_iri hc)).2 h⟩

theorem ancestry_fails (hk : o.Keyed) {iri : String} {c : OntClass} (hc : o.find? iri = some c) :
    (o.ancestry iri).FailsOnly o.CycleIn := by
  refine .bind (fun e h => ?_) fun c' h => ?_
  · simp [require, hc] at h
  · exact walkUp_fails hk (hk.find?_iri (require_eq_ok_iff.1 h))

theorem typeChain_fails (hk : o.Keyed) {iri : String} {c : OntClass} (hc : o.find? iri = some c) :
    (o.typeChain iri).FailsOnly o.CycleIn :=
  .bind (ancestry_fails hk hc) fun _ _ => .pure _

theorem parentIris_fails (hk : o.Keyed) {iri : String} {c : OntClass} (hc : o.find? iri = some c) :
    (o.parentIris iri).FailsOnly o.CycleIn :=
  .bind (ancestry_fails hk hc) fun _ _ => .pure _

theorem isAtOrBelowRoot_fails (hk : o.Keyed) (iri : String) :
    (o.isAtOrBelowRoot iri).FailsOnly o.CycleIn := by
  unfold isAtOrBelowRoot
  split
  · exact .bind .tell fun _ _ => .pure _
  · next c hc => exact .bind (walkUp_fails hk (hk.find?_iri hc)) fun _ _ => .pure _

theorem inheritanceChain_fails (hk : o.Keyed) (iri : String) :
    (o.inheritanceChain iri).FailsOnly o.CycleIn := by
  unfold inheritanceChain
  split
  · exact .bind .tell fun _ _ => .pure _
  · next c hc => exact walkUp_fails hk (hk.find?_iri hc)

/-- Whether a class is at or below the root is read off its ancestry. -/
theorem isAtOrBelowRoot_eq_ok_iff {iri : String} {c : OntClass} (hc : o.find? iri = some c)
    {b : Bool} : (o.isAtOrBelowRoot iri).result = .ok b ↔
      ∃ chain, (o.ancestry iri).result = .ok chain ∧ chain.any o.isRoot = b := by
  rw [isAtOrBelowRoot_of_found hc, result_bind_eq_ok, result_ancestry hc]
  simp only [result_pure, Except.ok.injEq]

/-- A class inherits along its lineage up to the first root. -/
theorem inheritanceChain_eq_ok_iff (hk : o.Keyed) {iri : String} {c : OntClass}
    (hc : o.find? iri = some c) {l : List OntClass} :
    (o.inheritanceChain iri).result = .ok l ↔ o.Lineage o.isRoot c l := by
  rw [inheritanceChain_of_found hc, walkUp_eq_ok_iff (hk.find?_iri hc)]

end OntologySchema.Ontology
