import Mathlib
import OntologySchema.Proofs.Hierarchy.Descent

/-!
# The leaves of a class, whatever the hierarchy

Nothing is asked of the hierarchy here but that classes stand at their own IRIs: children may be shared, listed
twice, missing, or lead back to where they came from.

`Visits` is a depth-first traversal that remembers nothing: it goes into every child each time it comes to it, so it
has an end only where no cycle can be reached. A descent remembers the way down and the leaves it has found. The two
agree: without a cycle the leaves are those that the traversal visits, in the order of their first visits
(`Gathers.visits`, `foldl_addLeaf_eq`); with a cycle the descent reports a walk that comes back. Both
are put together in `leaves_outcome`.
-/

namespace OntologySchema.Ontology

open Relation (TransGen ReflTransGen)

variable {o : Ontology}

/-! ### Traversals -/

/-- The classes that a depth-first traversal from the classes in a list visits, one visit for each way to them. -/
inductive Visits (o : Ontology) : List String → List OntClass → Prop
  | done : Visits o [] []
  | unknown {k todo visited} (hf : o.find? k = none) (hr : Visits o todo visited) :
      Visits o (k :: todo) visited
  | visit {k todo c below visited} (hf : o.find? k = some c) (hd : Visits o c.children below)
      (hr : Visits o todo visited) : Visits o (k :: todo) (c :: below ++ visited)

namespace Visits

variable {todo : List String} {visited : List OntClass}

theorem unique {visited' : List OntClass} (h : o.Visits todo visited) (h' : o.Visits todo visited') :
    visited' = visited := by
  induction h generalizing visited' with
  | done => cases h'; rfl
  | unknown hf _ ih =>
    cases h' with
    | unknown _ hr => exact ih hr
    | visit hf' => cases hf.symm.trans hf'
  | visit hf _ _ ihd ih =>
    cases h' with
    | unknown hf' => cases hf.symm.trans hf'
    | visit hf' hd hr =>
      obtain rfl := Option.some.inj (hf.symm.trans hf')
      rw [ihd hd, ih hr]

/-- What is visited is in the ontology. -/
theorem found (hk : o.Keyed) (h : o.Visits todo visited) : ∀ c ∈ visited, o.find? c.iri = some c := by
  induction h with
  | done => simp
  | unknown _ _ ih => exact ih
  | visit hf _ _ ihd ih =>
    intro c hc
    rcases List.mem_append.1 hc with hc | hc
    · rcases List.mem_cons.1 hc with rfl | hc
      · exact hk.find?_iri hf
      · exact ihd c hc
    · exact ih c hc

end Visits

/-! ### Descents and traversals -/

/-- A descent that succeeds adds the leaves that the traversal visits, one after the other. -/
theorem Gathers.visits {path todo : List String} {ls ls' : List OntClass}
    (h : o.Gathers path todo ls ls') : ∃ visited, o.Visits todo visited ∧
      ls' = (visited.filter (·.children = [])).foldl addLeaf ls := by
  induction h with
  | done => exact ⟨[], .done, rfl⟩
  | unknown hf _ ih =>
    obtain ⟨visited, hv, hls⟩ := ih
    exact ⟨visited, .unknown hf hv, hls⟩
  | @leaf path k todo c ls ls' hf _ hc _ ih =>
    obtain ⟨visited, hv, hls⟩ := ih
    refine ⟨[c] ++ visited, .visit hf (hc ▸ .done) hv, ?_⟩
    rw [hls, List.filter_append, List.foldl_append]
    simp [hc]
  | @inner path k todo c ls mid ls' hf _ hc _ _ ihd ih =>
    obtain ⟨below, hbelow, hmid⟩ := ihd
    obtain ⟨visited, hv, hls⟩ := ih
    refine ⟨c :: below ++ visited, .visit hf hbelow hv, ?_⟩
    rw [hls, hmid, List.filter_append, List.foldl_append, List.filter_cons_of_neg (by simpa using hc)]

/-- To add leaves one after the other is to drop the repetitions. -/
theorem foldl_addLeaf_eq {ls : List OntClass} (h : ∀ l ∈ ls, o.find? l.iri = some l) :
    ls.foldl addLeaf [] = ls.eraseDups := by
  -- leaves are added at the end, so the induction is on the last one
  induction ls using List.reverseRecOn with
  | nil => rfl
  | append_singleton ls c ih =>
    rw [List.forall_mem_append, List.forall_mem_singleton] at h
    have hfound : ∀ l ∈ ls.eraseDups, o.find? l.iri = some l :=
      fun l hl => h.1 l (List.mem_eraseDups.1 hl)
    rw [List.foldl_append, ih h.1, List.foldl_cons, List.foldl_nil, addLeaf_eq hfound h.2,
      List.eraseDups_append]
    by_cases hc : c ∈ ls
    · simp [List.removeAll, hc]
    · simp [List.removeAll, hc, List.eraseDups_cons]

/-! ### Leaves -/

/-- From a class a class can be reached that can be reached from itself. -/
def CyclicBelow (o : Ontology) (iri : String) : Prop :=
  ∃ k, ReflTransGen o.HasChild iri k ∧ TransGen o.HasChild k k

/-- The leaves at or below a class, in the order in which a depth-first traversal first visits them. -/
structure LeavesInOrder (o : Ontology) (iri : String) (ls : List OntClass) : Prop where
  order : ∃ visited, (∀ vs, o.Visits [iri] vs ↔ vs = visited) ∧
    ls = (visited.filter (·.children = [])).eraseDups
  nodup : (ls.map (·.iri)).Nodup
  mem_iff : ∀ l, l ∈ ls ↔ o.LeafAt iri l

/-- A descent that succeeds has not come near a cycle. -/
theorem not_cyclicBelow_of_leaves (hk : o.Keyed) {iri : String} {ls : List OntClass}
    (h : (o.leaves iri).result = .ok ls) : ¬ o.CyclicBelow iri := by
  rintro ⟨k, hr, hcycle⟩
  -- whatever can be reached the descent has entered, and it has come to an end there
  have hg := gathers_of_leaves h
  rcases Relation.reflTransGen_iff_eq_or_transGen.1 hr with rfl | hr
  · exact hg.not_cyclic hk List.mem_cons_self hcycle
  · obtain ⟨_, _, _, _, -, hm, hg⟩ := hg.reach hk List.mem_cons_self hr
    exact hg.not_cyclic hk hm hcycle

theorem leavesInOrder_of_leaves (hk : o.Keyed) {iri : String} {ls : List OntClass}
    (h : (o.leaves iri).result = .ok ls) : o.LeavesInOrder iri ls where
  order := by
    obtain ⟨visited, hv, rfl⟩ := (gathers_of_leaves h).visits
    refine ⟨visited, fun vs => ⟨hv.unique, fun he => he ▸ hv⟩, ?_⟩
    exact foldl_addLeaf_eq fun l hl => hv.found hk l (List.mem_of_mem_filter hl)
  nodup := (gathers_of_leaves h).nodup .nil
  mem_iff := fun _ => mem_leaves_iff hk h

theorem leaves_notFound_iff (hk : o.Keyed) {iri k : String} :
    (o.leaves iri).result = .error (.notFound k) ↔ o.find? iri = none ∧ k = iri := by
  cases hf : o.find? iri with
  | none =>
    have hnone : (o.leaves iri).result = .error (.notFound iri) := by
      refine Attempt.result_bind_of_error ?_
      simp [require, hf]
    rw [hnone]
    simp [eq_comm]
  | some c =>
    refine ⟨fun h => ?_, fun h => by cases h.1⟩
    obtain ⟨_, _, he, -⟩ := comesBack_of_leaves hk hf h
    cases he

/-- A descent that fails has come back, so a cycle can be reached. -/
theorem cyclicBelow_of_leaves (hk : o.Keyed) {iri : String} {c : OntClass} {e : HierarchyError}
    (hc : o.find? iri = some c) (h : (o.leaves iri).result = .error e) : o.CyclicBelow iri := by
  obtain ⟨again, _, -, hback⟩ := comesBack_of_leaves hk hc h
  exact ⟨again, hback.cyclic⟩

/-- A descent from a class fails by a cycle just when one can be reached. -/
theorem exists_cycle_iff (hk : o.Keyed) {iri : String} {c : OntClass} (hc : o.find? iri = some c) :
    (∃ again walk, (o.leaves iri).result = .error (.cycle again walk)) ↔ o.CyclicBelow iri := by
  constructor
  · rintro ⟨again, walk, h⟩
    exact cyclicBelow_of_leaves hk hc h
  · intro hbelow
    cases h : (o.leaves iri).result with
    | ok ls => exact absurd hbelow (not_cyclicBelow_of_leaves hk h)
    | error e =>
      obtain ⟨again, walk, rfl, -⟩ := comesBack_of_leaves hk hc h
      exact ⟨again, walk, rfl⟩

/-- An unknown class has no leaves to report. A class from which no cycle can be reached has the leaves that a
depth-first traversal visits. From any other class the walk that is reported goes along children and comes back
to its end. -/
theorem leaves_outcome (hk : o.Keyed) (iri : String) :
    (∀ k, (o.leaves iri).result = .error (.notFound k) ↔ o.find? iri = none ∧ k = iri) ∧
      ∀ c, o.find? iri = some c →
        ((∃ again walk, (o.leaves iri).result = .error (.cycle again walk)) ↔ o.CyclicBelow iri) ∧
        (∀ again walk, (o.leaves iri).result = .error (.cycle again walk) →
          o.ComesBack iri again walk ∧
            (HierarchyError.cycle again walk).message =
              "Cycle detected in class hierarchy at '" ++ again ++ "' (path: " ++
                " -> ".intercalate walk ++ ")") ∧
        (¬ o.CyclicBelow iri → ∃ ls, (o.leaves iri).result = .ok ls ∧ o.LeavesInOrder iri ls) := by
  refine ⟨fun k => leaves_notFound_iff hk, fun c hc => ⟨exists_cycle_iff hk hc, ?_, ?_⟩⟩
  · intro again walk h
    obtain ⟨_, _, he, hback⟩ := comesBack_of_leaves hk hc h
    cases he
    exact ⟨hback, rfl⟩
  · intro hnot
    cases h : (o.leaves iri).result with
    | ok ls => exact ⟨ls, rfl, leavesInOrder_of_leaves hk h⟩
    | error e => exact absurd (cyclicBelow_of_leaves hk hc h) hnot

/-- A diamond with a child that is not there, and apart from it a way into a loop. -/
def diamondAndLoop : Ontology :=
  [{ iri := "top", name := "Top", children := ["left", "gone", "right"] },
    { iri := "left", name := "Left", children := ["bottom"] },
    { iri := "right", name := "Right", children := ["bottom"] },
    { iri := "bottom", name := "Bottom" },
    { iri := "in", name := "In", children := ["round"] },
    { iri := "round", name := "Round", children := ["back"] },
    { iri := "back", name := "Back", children := ["round"] }].foldl insert {}

theorem leaves_outcome_diamondAndLoop :
    diamondAndLoop.Keyed ∧
      (¬ diamondAndLoop.CyclicBelow "top" ∧ ∃ ls, (diamondAndLoop.leaves "top").result = .ok ls ∧
        diamondAndLoop.LeavesInOrder "top" ls) ∧
      diamondAndLoop.CyclicBelow "in" ∧
      diamondAndLoop.ComesBack "in" "round" ["in", "round", "back", "round"] := by
  have hk : diamondAndLoop.Keyed := keyed_foldl_insert _ fun _ _ hc => nomatch hc
  obtain ⟨top, htop⟩ : ∃ c, diamondAndLoop.find? "top" = some c := ⟨_, rfl⟩
  obtain ⟨start, hin⟩ : ∃ c, diamondAndLoop.find? "in" = some c := ⟨_, rfl⟩
  have hdiamond : (diamondAndLoop.leaves "top").result =
      .ok [{ iri := "bottom", name := "Bottom" }] := by cbv
  have hloop : (diamondAndLoop.leaves "in").result =
      .error (.cycle "round" ["in", "round", "back", "round"]) := by cbv
  obtain ⟨hcycle, -, hleaves⟩ := (leaves_outcome hk "top").2 top htop
  obtain ⟨hcycle', hwalk, -⟩ := (leaves_outcome hk "in").2 start hin
  have hnot : ¬ diamondAndLoop.CyclicBelow "top" := by
    intro hbelow
    obtain ⟨_, _, herror⟩ := hcycle.2 hbelow
    cases hdiamond.symm.trans herror
  exact ⟨hk, ⟨hnot, hleaves hnot⟩, hcycle'.1 ⟨_, _, hloop⟩, (hwalk _ _ hloop).1⟩

end OntologySchema.Ontology
