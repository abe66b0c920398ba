import Mathlib
import OntologySchema.Proofs.Hierarchy.Ascent

/-!
# The way up from a class

The way up from a class is a sequence: the class, its parent, the parent's parent and so on (`ancestor?`). It ends
where a class has no parent, or a parent that is not there; or it goes round for ever, and then some class on it is
the first that was there before (`RepeatsAt`).

All walks up follow this one sequence and differ in where they stop (`StopsAt`) and in what they make of the classes
up to there. A walk succeeds just when it stops, and then has met no class twice; it fails just when the way repeats
before any stop, and reports the way up to the repetition (`goesUp_walkUp`).
-/

namespace OntologySchema.Ontology

variable {o : Ontology} {stop : OntClass → Bool} {c d a : OntClass} {n m : Nat}

/-- The classes on the way up from a class, counted from the class itself. -/
def ancestor? (o : Ontology) (c : OntClass) : Nat → Option OntClass
  | 0 => some c
  | n + 1 => (o.ancestor? c n).bind o.parent?

/-- The first classes on the way up, as many as are asked for if there are so many. -/
def ancestors (o : Ontology) (c : OntClass) (n : Nat) : List OntClass :=
  (List.range n).filterMap (o.ancestor? c)

/-! ### The sequence -/

theorem ancestor?_succ (o : Ontology) (c : OntClass) (n : Nat) :
    o.ancestor? c (n + 1) = (o.parent? c).bind fun d => o.ancestor? d n := by
  induction n with
  | zero => cases h : o.parent? c <;> simp [ancestor?, h]
  | succ n ih =>
    rw [ancestor?, ih, Option.bind_assoc]
    rfl

/-- The way up from a class is the class and the way up from its parent. -/
theorem ancestors_succ (hp : o.parent? c = some d) (n : Nat) :
    o.ancestors c (n + 1) = c :: o.ancestors d n := by
  have hnext : o.ancestor? c ∘ Nat.succ = o.ancestor? d := by
    funext n
    rw [Function.comp_apply, ancestor?_succ, hp, Option.bind_some]
  rw [ancestors, List.range_succ_eq_map, List.filterMap_cons, List.filterMap_map, hnext]
  rfl

/-- The next class on the way up comes last. -/
theorem ancestors_concat (ha : o.ancestor? c n = some a) :
    o.ancestors c (n + 1) = o.ancestors c n ++ [a] := by
  rw [ancestors, List.range_succ, List.filterMap_append, List.filterMap_cons, ha]
  rfl

theorem ancestors_sublist (hle : n ≤ m) : (o.ancestors c n).Sublist (o.ancestors c m) :=
  (List.range_sublist.2 hle).filterMap _

theorem mem_ancestors (ha : o.ancestor? c n = some a) (hlt : n < m) : a ∈ o.ancestors c m :=
  List.mem_filterMap.2 ⟨n, List.mem_range.2 hlt, ha⟩

/-- Where the way up has ended it does not go on. -/
theorem ancestor?_eq_none (h : o.ancestor? c n = none) (hle : n ≤ m) : o.ancestor? c m = none := by
  induction hle with
  | refl => exact h
  | step _ ih => rw [ancestor?, ih, Option.bind_none]

/-- The classes on the way up are classes of the ontology. -/
theorem found_of_ancestor? (hk : o.Keyed) (hc : o.find? c.iri = some c) :
    ∀ {n a}, o.ancestor? c n = some a → o.find? a.iri = some a
  | 0, _, ha => Option.some.inj ha ▸ hc
  | _ + 1, _, ha => by
    obtain ⟨_, -, hp⟩ := Option.bind_eq_some_iff.1 ha
    obtain ⟨_, -, hd⟩ := Option.bind_eq_some_iff.1 hp
    exact hk.find?_iri hd

theorem found_of_mem_ancestors (hk : o.Keyed) (hc : o.find? c.iri = some c)
    (ha : a ∈ o.ancestors c n) : o.find? a.iri = some a := by
  obtain ⟨_, -, ha⟩ := List.mem_filterMap.1 ha
  exact found_of_ancestor? hk hc ha

/-! ### Stopping -/

/-- The way up stops at its `n`-th class: that is the first at which to stop, or there is no next one. -/
structure StopsAt (o : Ontology) (stop : OntClass → Bool) (c : OntClass) (n : Nat) : Prop where
  stops : ∃ a, o.ancestor? c n = some a ∧ (stop a = true ∨ o.ancestor? c (n + 1) = none)
  goesOn : ∀ b ∈ o.ancestors c n, stop b = false

/-- The lineage of a class is the way up to where it stops. -/
theorem lineage_iff {l : List OntClass} :
    o.Lineage stop c l ↔ ∃ n, o.StopsAt stop c n ∧ l = o.ancestors c (n + 1) := by
  constructor
  · intro h
    induction h with
    | @stopped c hs => exact ⟨0, ⟨⟨c, rfl, .inl hs⟩, by simp [ancestors]⟩, rfl⟩
    | @ended c hp => exact ⟨0, ⟨⟨c, rfl, .inr hp⟩, by simp [ancestors]⟩, rfl⟩
    | @up c d ds hs hp _ ih =>
      obtain ⟨n, ⟨⟨a, ha, hlast⟩, hgoes⟩, rfl⟩ := ih
      refine ⟨n + 1, ⟨⟨a, ?_, ?_⟩, ?_⟩, (ancestors_succ hp _).symm⟩
      · rw [ancestor?_succ, hp, Option.bind_some, ha]
      · rwa [ancestor?_succ, hp, Option.bind_some]
      · rw [ancestors_succ hp]
        exact List.forall_mem_cons.2 ⟨hs, hgoes⟩
  · rintro ⟨n, ⟨⟨a, ha, hlast⟩, hgoes⟩, rfl⟩
    induction n generalizing c with
    | zero =>
      cases ha
      exact hlast.elim .stopped .ended
    | succ n ih =>
      obtain ⟨d, hp, hd⟩ := Option.bind_eq_some_iff.1 (ancestor?_succ o c n ▸ ha)
      rw [ancestor?_succ, hp, Option.bind_some] at hlast
      rw [ancestors_succ hp] at hgoes ⊢
      obtain ⟨hs, hgoes⟩ := List.forall_mem_cons.1 hgoes
      exact .up hs hp (ih hgoes hd hlast)

/-- Each class of a lineage has a lineage of its own, which is no longer. -/
theorem Lineage.exists_of_mem {l : List OntClass} (h : o.Lineage stop c l) (ha : a ∈ l) :
    ∃ l', o.Lineage stop a l' ∧ l'.length ≤ l.length := by
  induction h with
  | stopped hs =>
    obtain rfl := List.mem_singleton.1 ha
    exact ⟨_, .stopped hs, Nat.le_refl _⟩
  | ended hp =>
    obtain rfl := List.mem_singleton.1 ha
    exact ⟨_, .ended hp, Nat.le_refl _⟩
  | up hs hp hl ih =>
    rcases List.mem_cons.1 ha with rfl | ha
    · exact ⟨_, .up hs hp hl, Nat.le_refl _⟩
    · obtain ⟨l', hl', hle⟩ := ih ha
      exact ⟨l', hl', Nat.le_succ_of_le hle⟩

/-- A lineage has no class twice. -/
theorem Lineage.nodup (hk : o.Keyed) {l : List OntClass} (h : o.Lineage stop c l)
    (hc : o.find? c.iri = some c) : (l.map (·.iri)).Nodup := by
  induction h with
  | stopped | ended => simp
  | @up c d ds hs hp hl ih =>
    obtain ⟨_, _, hd⟩ := Option.bind_eq_some_iff.1 hp
    refine List.nodup_cons.2 ⟨fun hmem => ?_, ih (hk.find?_iri hd)⟩
    -- the class would be on the lineage of its parent, and its own lineage would be too short
    obtain ⟨b, hb, he⟩ := List.mem_map.1 hmem
    have hfound := hl.found hk (hk.find?_iri hd) b hb
    rw [he, hc] at hfound
    obtain rfl := Option.some.inj hfound
    obtain ⟨l', hl', hle⟩ := hl.exists_of_mem hb
    rw [hl'.unique (.up hs hp hl), List.length_cons] at hle
    omega

/-! ### Repeating -/

/-- The `n`-th class on the way up is the first that was there before. -/
structure RepeatsAt (o : Ontology) (c : OntClass) (n : Nat) (a : OntClass) : Prop where
  here : o.ancestor? c n = some a
  again : a.iri ∈ (o.ancestors c n).map (·.iri)
  first : ((o.ancestors c n).map (·.iri)).Nodup

/-- The failure that reports the way up to its `n`-th class. -/
def cycleAt (o : Ontology) (c : OntClass) (n : Nat) (a : OntClass) : HierarchyError :=
  .cycle a.iri ((o.ancestors c (n + 1)).map (·.iri))

namespace RepeatsAt

theorem not_nodup (h : o.RepeatsAt c n a) (hlt : n < m) :
    ¬ ((o.ancestors c m).map (·.iri)).Nodup := by
  intro hnodup
  have hsub := (ancestors_sublist (o := o) (c := c) (Nat.succ_le_of_lt hlt)).map (·.iri)
  rw [ancestors_concat h.here, List.map_append] at hsub
  obtain ⟨-, -, hdisjoint⟩ := List.nodup_append.1 (hsub.nodup hnodup)
  exact hdisjoint a.iri h.again a.iri (by simp) rfl

/-- There is one first repetition. -/
theorem unique {b : OntClass} (h : o.RepeatsAt c n a) (h' : o.RepeatsAt c m b) : m = n ∧ b = a := by
  have heq : m = n := by
    rcases Nat.lt_trichotomy m n with hlt | heq | hlt
    · exact absurd h.first (h'.not_nodup hlt)
    · exact heq
    · exact absurd h'.first (h.not_nodup hlt)
  subst heq
  exact ⟨rfl, Option.some.inj (h'.here.symm.trans h.here)⟩

/-- A way that repeats before any stop does not stop. -/
theorem not_stopsAt (hk : o.Keyed) (hc : o.find? c.iri = some c) (h : o.RepeatsAt c n a)
    (hgoes : ∀ b ∈ o.ancestors c n, stop b = false) : ¬ o.StopsAt stop c m := by
  intro hstops
  have hnodup := (lineage_iff.2 ⟨m, hstops, rfl⟩).nodup hk hc
  rcases Nat.lt_or_ge n (m + 1) with hlt | hle
  · exact h.not_nodup hlt hnodup
  · obtain ⟨b, hb, hs | hnone⟩ := hstops.stops
    · have hgo := hgoes b (mem_ancestors hb hle)
      rw [hs] at hgo
      cases hgo
    · have hhere := h.here
      rw [ancestor?_eq_none hnone hle] at hhere
      cases hhere

end RepeatsAt

/-- A climb from a class, which has met `met` before, goes up along `tail` without a stop and comes to a parent `p` that
it has met; up to there it has met nothing again. -/
structure ComesRound (o : Ontology) (stop : OntClass → Bool) (met : List String) (c : OntClass)
    (p : String) (n : Nat) (tail : List OntClass) : Prop where
  chain_eq : (o.climb stop met c).1 = c :: tail
  ancestors_eq : o.ancestors c (n + 1) = c :: tail
  goesOn : ∀ b ∈ c :: tail, stop b = false
  next_eq : o.ancestor? c (n + 1) = o.find? p
  met_before : p ∈ tail.map (·.iri) ++ met
  nodup : (tail.map (·.iri)).Nodup
  fresh : ∀ k ∈ tail.map (·.iri), k ∉ met

theorem comesRound_of_climb (hk : o.Keyed) (met : List String) (c : OntClass) {p : String} :
    (o.climb stop met c).2 = .cycle p → ∃ n tail, o.ComesRound stop met c p n tail := by
  fun_induction climb o stop met c with
  | case1 => intro h; cases h
  | case2 => intro h; cases h
  | case3 met c hs q hq hm =>
    intro h
    cases h
    refine ⟨0, [], ⟨?_, rfl, by simpa using hs, by simp [ancestor?, parent?, hq], hm, .nil, by simp⟩⟩
    rw [climb, if_neg hs]
    simp [hq, hm]
  | case4 => intro h; cases h
  | case5 met c hs q hq hm d hf above ih =>
    -- the parent is on the way up now, and no longer among what was met before it
    intro h
    obtain ⟨n, tail, hround⟩ := ih h
    have hp : o.parent? c = some d := by simp [parent?, hq, hf]
    have hd : d.iri = q := hk q d hf
    refine ⟨n + 1, d :: tail, ?_⟩
    constructor
    case chain_eq => rw [climb_of_found hs hq hm hf, hround.chain_eq]
    case ancestors_eq => rw [ancestors_succ hp, hround.ancestors_eq]
    case goesOn => exact List.forall_mem_cons.2 ⟨by simpa using hs, hround.goesOn⟩
    case next_eq => rw [ancestor?_succ, hp, Option.bind_some, hround.next_eq]
    case met_before =>
      have hmem := hround.met_before
      simp only [List.map_cons, List.mem_append, List.mem_cons, hd] at hmem ⊢
      tauto
    case nodup =>
      refine List.nodup_cons.2 ⟨fun hin => hround.fresh d.iri hin ?_, hround.nodup⟩
      rw [hd]
      exact List.mem_cons_self
    case fresh =>
      rw [List.map_cons, List.forall_mem_cons, hd]
      exact ⟨hm, fun k hkt hkm => hround.fresh k hkt (List.mem_cons_of_mem _ hkm)⟩

/-! ### Walks -/

/-- A walk that ends in a cycle has found the first repetition, and no stop before it. -/
theorem repeatsAt_of_walkUp (hk : o.Keyed) (hc : o.find? c.iri = some c) {e : HierarchyError}
    (h : (o.walkUp stop c).result = .error e) :
    ∃ n a, o.RepeatsAt c n a ∧ (∀ b ∈ o.ancestors c n, stop b = false) ∧ e = o.cycleAt c n a := by
  rw [result_walkUp] at h
  split at h
  · next chain p heq =>
    cases h
    have hcycle : (o.climb stop [c.iri] c).2 = .cycle p := by rw [heq]
    obtain ⟨n, tail, hround⟩ := comesRound_of_climb hk [c.iri] c hcycle
    have hchain : chain = c :: tail := by rw [← hround.chain_eq, heq]
    have hp : p ∈ (o.ancestors c (n + 1)).map (·.iri) := by
      rw [hround.ancestors_eq]
      simpa [or_comm] using hround.met_before
    obtain ⟨a, ha, rfl⟩ := List.mem_map.1 hp
    have hhere : o.ancestor? c (n + 1) = some a := by
      rw [hround.next_eq, found_of_mem_ancestors hk hc ha]
    have hfirst : ((o.ancestors c (n + 1)).map (·.iri)).Nodup := by
      rw [hround.ancestors_eq]
      exact List.nodup_cons.2 ⟨fun hin => hround.fresh _ hin List.mem_cons_self, hround.nodup⟩
    refine ⟨n + 1, a, ⟨hhere, hp, hfirst⟩, by rw [hround.ancestors_eq]; exact hround.goesOn, ?_⟩
    rw [cycleAt, ancestors_concat hhere, hround.ancestors_eq, hchain, List.map_append, List.map_singleton]
  · cases h

/-- What a walk up from a class gives, as far as a stop, that makes `f` of the classes up to there: it succeeds just
when the way stops, and fails just when the way repeats before. -/
structure GoesUp {α : Type} (o : Ontology) (stop : OntClass → Bool) (c : OntClass)
    (r : Except HierarchyError α) (f : List OntClass → α) : Prop where
  ok_iff : ∀ v, r = .ok v ↔ ∃ n, o.StopsAt stop c n ∧ v = f (o.ancestors c (n + 1))
  error_iff : ∀ e, r = .error e ↔
    ∃ n a, o.RepeatsAt c n a ∧ (∀ b ∈ o.ancestors c n, stop b = false) ∧ e = o.cycleAt c n a

theorem goesUp_walkUp (hk : o.Keyed) (hc : o.find? c.iri = some c) :
    o.GoesUp stop c (o.walkUp stop c).result id where
  ok_iff _ := (walkUp_eq_ok_iff hc).trans lineage_iff
  error_iff e := by
    refine ⟨repeatsAt_of_walkUp hk hc, ?_⟩
    rintro ⟨n, a, hrep, hgoes, rfl⟩
    cases h : (o.walkUp stop c).result with
    | ok l =>
      obtain ⟨m, hstops, -⟩ := lineage_iff.1 ((walkUp_eq_ok_iff hc).1 h)
      exact absurd hstops (hrep.not_stopsAt hk hc hgoes)
    | error e =>
      obtain ⟨m, b, hrep', -, rfl⟩ := repeatsAt_of_walkUp hk hc h
      obtain ⟨rfl, rfl⟩ := hrep.unique hrep'
      rfl

/-- What is made of the result of a walk is made of the classes it has met. -/
theorem GoesUp.map {α β : Type} {r : Except HierarchyError α} {f : List OntClass → α}
    (h : o.GoesUp stop c r f) (g : α → β) : o.GoesUp stop c (r.map g) fun l => g (f l) where
  ok_iff v := by
    constructor
    · intro hv
      cases r with
      | ok w =>
        obtain ⟨n, hstops, rfl⟩ := (h.ok_iff w).1 rfl
        exact ⟨n, hstops, (Except.ok.inj hv).symm⟩
      | error e => cases hv
    · rintro ⟨n, hstops, rfl⟩
      rw [(h.ok_iff _).2 ⟨n, hstops, rfl⟩]
      rfl
  error_iff e := by
    rw [← h.error_iff]
    cases r <;> simp [Except.map]

/-- The walks that are asked for go up one way. Those that ask for the ancestors go to its end. Those that ask for the
properties go to the first root, so that a cycle above it is none of their concern. -/
theorem upward_walks (hk : o.Keyed) {iri : String} (hc : o.find? iri = some c) :
    (o.GoesUp (fun _ => false) c (o.ancestry iri).result id ∧
      o.GoesUp (fun _ => false) c (o.parentIris iri).result (fun l => l.tail.map (·.iri)) ∧
      o.GoesUp (fun _ => false) c (o.typeChain iri).result (fun l => l.map (·.name)) ∧
      o.GoesUp (fun _ => false) c (o.isAtOrBelowRoot iri).result (fun l => l.any o.isRoot)) ∧
    (o.GoesUp o.isRoot c (o.allDataProperties iri).result (fun l => l.flatMap (·.dataProperties)) ∧
      o.GoesUp o.isRoot c (o.allObjectProperties iri).result
        (fun l => l.flatMap (·.objectProperties))) ∧
    (∀ stop n, o.StopsAt stop c n → ((o.ancestors c (n + 1)).map (·.iri)).Nodup) ∧
    ∀ n a, (o.cycleAt c n a).message =
      "Cycle detected in class hierarchy at '" ++ a.iri ++ "' (path: " ++
        " -> ".intercalate ((o.ancestors c (n + 1)).map (·.iri)) ++ ")" := by
  have hfound := hk.find?_iri hc
  have hancestry : o.GoesUp (fun _ => false) c (o.ancestry iri).result id := by
    rw [result_ancestry hc]
    exact goesUp_walkUp hk hfound
  have hinherited : o.GoesUp o.isRoot c (o.inheritanceChain iri).result id := by
    rw [inheritanceChain_of_found hc]
    exact goesUp_walkUp hk hfound
  refine ⟨⟨hancestry, ?_, ?_, ?_⟩, ⟨?_, ?_⟩, ?_, fun _ _ => rfl⟩
  · rw [parentIris, Attempt.result_bind_pure]
    exact hancestry.map _
  · rw [typeChain, Attempt.result_bind_pure]
    exact hancestry.map _
  · rw [isAtOrBelowRoot_of_found hc, Attempt.result_bind_pure]
    exact (goesUp_walkUp hk hfound).map _
  · rw [allDataProperties, Attempt.result_bind_pure]
    exact hinherited.map _
  · rw [allObjectProperties, Attempt.result_bind_pure]
    exact hinherited.map _
  · exact fun stop n hstops => (lineage_iff.2 ⟨n, hstops, rfl⟩).nodup hk hfound

/-- A class below a root that is itself below two classes which are each other's parent. -/
def rootBelowLoop : Ontology :=
  [{ iri := "under", name := "Under", parent := some "root" },
    { iri := "root", name := "Root", parent := some "one",
      dataProperties := [{ iri := "size", type := "int32", name := "size", owner := "root" }] },
    { iri := "one", name := "One", parent := some "two" },
    { iri := "two", name := "Two", parent := some "one" }].foldl insert { root := "Root" }

theorem upward_walks_rootBelowLoop :
    rootBelowLoop.Keyed ∧ ∃ c, rootBelowLoop.find? "under" = some c ∧
      (∃ n a, rootBelowLoop.RepeatsAt c n a ∧
        rootBelowLoop.cycleAt c n a = .cycle "one" ["under", "root", "one", "two", "one"]) ∧
      ∃ n, rootBelowLoop.StopsAt rootBelowLoop.isRoot c n ∧
        (rootBelowLoop.ancestors c (n + 1)).flatMap (·.dataProperties) =
          [{ iri := "size", type := "int32", name := "size", owner := "root" }] := by
  have hk : rootBelowLoop.Keyed := keyed_foldl_insert _ fun _ _ hc => nomatch hc
  obtain ⟨c, hc⟩ : ∃ c, rootBelowLoop.find? "under" = some c := ⟨_, rfl⟩
  have hloop : (rootBelowLoop.isAtOrBelowRoot "under").result =
      .error (.cycle "one" ["under", "root", "one", "two", "one"]) := by cbv
  have hsize : (rootBelowLoop.allDataProperties "under").result =
      .ok [{ iri := "size", type := "int32", name := "size", owner := "root" }] := by cbv
  obtain ⟨⟨-, -, -, hbelow⟩, ⟨hdata, -⟩, -, -⟩ := upward_walks hk hc
  obtain ⟨n, a, hrepeats, -, he⟩ := (hbelow.error_iff _).1 hloop
  obtain ⟨m, hstops, hv⟩ := (hdata.ok_iff _).1 hsize
  exact ⟨hk, c, hc, ⟨n, a, hrepeats, he.symm⟩, m, hstops, hv.symm⟩

end OntologySchema.Ontology
