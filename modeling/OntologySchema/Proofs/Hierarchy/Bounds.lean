import Mathlib
import OntologySchema.Proofs.Hierarchy.Ascent

/-!
# How far walks go

Walks are asked for on every ontology: keys may disagree with the IRIs of their classes, and parents and children may
be missing or lead in circles. Here the two walks are written with a budget, the walk up with a number of rounds
(`walkUpWithin`) and the descent with a number of calls that may be open at a time (`descendWithin`). A walk whose
budget is used up fails with `none`. With one more than there are classes in the ontology both walks do just what they
do without a budget, so neither needs more (`walks_end`).

The two go by different names. The walk up remembers the keys that it has looked up, and a key is looked up once; the
class it starts at may be none of the ontology's, so the last round may find nothing new. The descent remembers IRIs:
along nested calls the path has no IRI twice (`Call.Sound`), and it has only IRIs of classes of the ontology.
-/

namespace OntologySchema.Ontology

variable {o : Ontology} {stop : OntClass → Bool}

/-! ### Walking up -/

/-- The end of a walk up that has met the classes of `chain`. -/
def arrive {ε : Type} (start : OntClass) (chain : List OntClass) : Attempt ε (List OntClass) := do
  Attempt.tell .trace "Walked up class hierarchy"
    [("start", .text start.iri), ("depth", .number chain.length)]
  return chain

/-- A walk up from `start` that goes at most so many rounds. The classes of the chain were met, the last of them is `c`;
the keys in `met` were looked up. A round that is begun counts, whatever comes of it. -/
def walkUpWithin (o : Ontology) (stop : OntClass → Bool) (start : OntClass) :
    Nat → List OntClass → List String → OntClass → Attempt (Option HierarchyError) (List OntClass)
  | 0, chain, _, c => if stop c then arrive start chain else throw none
  | rounds + 1, chain, met, c =>
    if stop c then arrive start chain
    else
      match c.parent with
      | none => arrive start chain
      | some p =>
        if p ∈ met then throw (some (.cycle p (chain.map (·.iri) ++ [p])))
        else
          match o.find? p with
          | some d => walkUpWithin o stop start rounds (chain ++ [d]) (p :: met) d
          | none => do
            Attempt.tell .warn "Parent resource not found, ending traversal"
              [("iri", .text c.iri), ("parent", .text p)]
            arrive start chain

/-- What a walk up makes of a climb. -/
def report (start : OntClass) (chain : List OntClass) :
    Ending → Attempt (Option HierarchyError) (List OntClass)
  | .top => arrive start chain
  | .missing child parent => do
    Attempt.tell .warn "Parent resource not found, ending traversal"
      [("iri", .text child), ("parent", .text parent)]
    arrive start chain
  | .cycle parent => throw (some (.cycle parent (chain.map (·.iri) ++ [parent])))

theorem mapError_walkUp (start : OntClass) : (o.walkUp stop start).mapError some =
    report start (o.climb stop [start.iri] start).1 (o.climb stop [start.iri] start).2 := by
  unfold walkUp
  rcases o.climb stop [start.iri] start with ⟨chain, _ | _ | _⟩ <;> rfl

/-- A walk that may go one round more than there are keys it has not looked up makes of a climb what a walk without a
limit does. -/
theorem walkUpWithin_eq_report (start : OntClass) (met : List String) (c : OntClass) :
    ∀ {rounds} (front : List OntClass), unmet o.classes.keys met ≤ rounds →
      o.walkUpWithin stop start (rounds + 1) (front ++ [c]) met c =
        report start (front ++ (o.climb stop met c).1) (o.climb stop met c).2 := by
  fun_induction climb o stop met c with
  | case1 met c hs =>
    intro rounds front h
    simp only [walkUpWithin, if_pos hs, report]
  | case2 met c hs hp =>
    intro rounds front h
    simp only [walkUpWithin, if_neg hs, hp, report]
  | case3 met c hs p hp hm =>
    intro rounds front h
    simp only [walkUpWithin, if_neg hs, hp, if_pos hm, report]
  | case4 met c hs p hp hm hf =>
    intro rounds front h
    simp only [walkUpWithin, if_neg hs, hp, if_neg hm, hf, report]
  | case5 met c hs p hp hm d hf =>
    rename_i ih
    intro rounds front h
    have hless := unmet_cons_lt (Table.mem_keys_of_find? hf) hm
    obtain ⟨rounds, rfl⟩ := Nat.exists_eq_succ_of_ne_zero (Nat.ne_zero_of_lt (Nat.lt_of_lt_of_le hless h))
    rw [walkUpWithin, if_neg hs]
    simp only [hp, if_neg hm, hf]
    rw [ih (front ++ [c]) (by omega), List.append_assoc]
    rfl

theorem walkUpWithin_eq (stop : OntClass → Bool) (start : OntClass) :
    o.walkUpWithin stop start (o.classes.size + 1) [start] [start.iri] start =
      (o.walkUp stop start).mapError some := by
  have hrounds : unmet o.classes.keys [start.iri] ≤ o.classes.size := by
    refine Nat.le_trans List.countP_le_length ?_
    rw [Table.keys, List.length_map]
    rfl
  rw [mapError_walkUp]
  exact walkUpWithin_eq_report start [start.iri] start [] hrounds

/-! ### Calls of a descent -/

/-- A call of a descent: the class it is for, and the way down to that class, the nearest first. -/
structure Call where
  path : List String
  target : OntClass

/-- The call `f` gives rise to the call `g`, for a child that is there. -/
inductive Calls (o : Ontology) : Call → Call → Prop
  | down {path c k d} (hp : c.iri ∉ path) (hk : k ∈ c.children) (hd : o.find? k = some d) :
      Calls o ⟨path, c⟩ ⟨c.iri :: path, d⟩

/-- A call for a class of the ontology, whose path has only IRIs of such classes and none of them twice. -/
structure Call.Sound (o : Ontology) (f : Call) : Prop where
  nodup : f.path.Nodup
  known : f.path ⊆ o.iris
  target_known : f.target.iri ∈ o.iris

theorem Call.Sound.step {f g : Call} (hf : f.Sound o) (h : o.Calls f g) : g.Sound o := by
  cases h with
  | down hp hk hd =>
    exact ⟨List.nodup_cons.2 ⟨hp, hf.nodup⟩, List.cons_subset.2 ⟨hf.target_known, hf.known⟩,
      mem_iris_of_find? hd⟩

theorem length_path_of_calls {f g : Call} (h : o.Calls f g) : g.path.length = f.path.length + 1 := by
  cases h
  rfl

/-- No path is longer than there are classes. -/
theorem Call.Sound.length_path_le {f : Call} (hf : f.Sound o) : f.path.length ≤ o.classes.size := by
  have hle := (hf.nodup.subperm hf.known).length_le
  rwa [iris, Table.values, List.length_map, List.length_map] at hle

theorem Call.Sound.first {iri : String} {c : OntClass} (hc : o.find? iri = some c) :
    Call.Sound o ⟨[], c⟩ := ⟨.nil, List.nil_subset _, mem_iris_of_find? hc⟩

/-- Along nested calls all are sound, and there is at most one more of them than there are classes. -/
theorem sound_of_isChain {f : Call} (hf : f.Sound o) {calls : List Call}
    (h : (f :: calls).IsChain o.Calls) :
    (∀ g ∈ f :: calls, g.Sound o) ∧ f.path.length + (f :: calls).length ≤ o.classes.size + 1 := by
  induction calls generalizing f with
  | nil =>
    have hle := hf.length_path_le
    exact ⟨by simpa using hf, by simpa using hle⟩
  | cons g calls ih =>
    obtain ⟨hfg, hrest⟩ := List.isChain_cons_cons.1 h
    obtain ⟨hsound, hle⟩ := ih (hf.step hfg) hrest
    rw [length_path_of_calls hfg] at hle
    refine ⟨List.forall_mem_cons.2 ⟨hf, hsound⟩, ?_⟩
    rw [List.length_cons]
    omega

/-! ### Descending -/

/-- Go on to a child, if it is there. -/
def enter (o : Ontology) (parent : String)
    (call : OntClass → List OntClass → Attempt (Option HierarchyError) (List OntClass))
    (leaves : List OntClass) (k : String) : Attempt (Option HierarchyError) (List OntClass) :=
  match o.find? k with
  | some d => call d leaves
  | none => do
    Attempt.tell .warn "Skipping unknown subclass" [("parent", .text parent), ("child", .text k)]
    return leaves

/-- A descent to a class that has at most so many calls open at a time. -/
def descendWithin (o : Ontology) : Nat → List String → OntClass → List OntClass →
    Attempt (Option HierarchyError) (List OntClass)
  | 0, _, _, _ => throw none
  | depth + 1, path, c, leaves =>
    if c.iri ∈ path then throw (some (.cycle c.iri (path.reverse ++ [c.iri])))
    else if c.isAbstract then
      c.children.foldlM (o.enter c.iri (descendWithin o depth (c.iri :: path))) leaves
    else return addLeaf leaves c

/-- The leaves of a class, with so many calls open at a time at most. -/
def leavesWithin (o : Ontology) (depth : Nat) (iri : String) :
    Attempt (Option HierarchyError) (List OntClass) := do
  let start ← ExceptT.mk (pure ((o.require iri).mapError some))
  o.descendWithin depth [] start []

/-- There is room for all calls that are nested in a call, and the call itself. -/
def Room (o : Ontology) (depth : Nat) (f : Call) : Prop :=
  ∀ calls, (f :: calls).IsChain o.Calls → (f :: calls).length ≤ depth

theorem Room.exists_eq_succ {depth : Nat} {f : Call} (h : o.Room depth f) : ∃ n, depth = n + 1 :=
  Nat.exists_eq_add_one.2 (h [] (.singleton f))

theorem Room.of_calls {depth : Nat} {f g : Call} (h : o.Room (depth + 1) f) (hfg : o.Calls f g) :
    o.Room depth g := fun calls hcalls =>
  Nat.le_of_succ_le_succ (h (g :: calls) (.cons_cons hfg hcalls))

theorem enter_of_found {parent : String}
    {call : OntClass → List OntClass → Attempt (Option HierarchyError) (List OntClass)} {k : String}
    {c : OntClass} (hf : o.find? k = some c) (leaves : List OntClass) :
    o.enter parent call leaves k = call c leaves := by
  simp only [enter, hf]

/-- With room for the calls for each of the children in `todo` a descent is what it is without a limit. -/
theorem foldlM_enter_eq (path : List String) (parent : String) (todo : List String)
    (leaves : List OntClass) :
    ∀ {depth}, (∀ k ∈ todo, ∀ d, o.find? k = some d → o.Room depth ⟨path, d⟩) →
      todo.foldlM (o.enter parent (o.descendWithin depth path)) leaves =
        (o.collectLeaves path parent todo leaves).mapError some := by
  fun_induction collectLeaves o path parent todo leaves with
  | case1 => exact fun _ => rfl
  | case2 path parent k todo leaves hf ih =>
    intro depth hroom
    rw [List.foldlM_cons, Attempt.mapError_bind, enter, hf]
    simp only [bind_assoc, pure_bind, ih fun q hq => hroom q (List.mem_cons_of_mem _ hq)]
    rfl
  | case3 path parent k todo leaves c hf hp =>
    intro depth hroom
    obtain ⟨depth, rfl⟩ := (hroom k List.mem_cons_self c hf).exists_eq_succ
    rw [List.foldlM_cons, enter_of_found hf, descendWithin, if_pos hp]
    rfl
  | case4 path parent k todo leaves c hf hp hc ihd ih =>
    intro depth hroom
    have hroomc := hroom k List.mem_cons_self c hf
    have htodo : ∀ q ∈ todo, ∀ d, o.find? q = some d → o.Room depth ⟨path, d⟩ :=
      fun q hq => hroom q (List.mem_cons_of_mem _ hq)
    obtain ⟨depth, rfl⟩ := hroomc.exists_eq_succ
    have hdown := ihd fun q hq d hd => hroomc.of_calls (.down hp hq hd)
    rw [List.foldlM_cons, enter_of_found hf, descendWithin, if_neg hp, if_pos hc, hdown,
      Attempt.mapError_bind]
    exact congrArg _ (funext fun mid => ih mid htodo)
  | case5 path parent k todo leaves c hf hp hc ih =>
    intro depth hroom
    have htodo : ∀ q ∈ todo, ∀ d, o.find? q = some d → o.Room depth ⟨path, d⟩ :=
      fun q hq => hroom q (List.mem_cons_of_mem _ hq)
    obtain ⟨depth, rfl⟩ := (hroom k List.mem_cons_self c hf).exists_eq_succ
    rw [List.foldlM_cons, enter_of_found hf, descendWithin, if_neg hp, if_neg hc, pure_bind, ih htodo]

/-- The first call of a descent has room in one call more than there are classes. -/
theorem room_first {iri : String} {c : OntClass} (hc : o.find? iri = some c) :
    o.Room (o.classes.size + 1) ⟨[], c⟩ := by
  intro calls hcalls
  simpa using (sound_of_isChain (.first hc) hcalls).2

theorem leavesWithin_eq (iri : String) :
    o.leavesWithin (o.classes.size + 1) iri = (o.leaves iri).mapError some := by
  rw [leavesWithin, leaves, Attempt.mapError_bind]
  refine Attempt.bind_congr_of_result fun c hc => ?_
  have hfound : o.find? iri = some c := by
    rw [Attempt.result_mk_pure, require] at hc
    split at hc
    · next d hd => rwa [← Except.ok.inj hc]
    · cases hc
  have hroom : ∀ k ∈ [iri], ∀ d, o.find? k = some d → o.Room (o.classes.size + 1) ⟨[], d⟩ :=
    fun _ _ _ hd => room_first hd
  rw [← foldlM_enter_eq [] "" [iri] [] hroom, List.foldlM_cons, enter_of_found hfound]
  simp only [List.foldlM_nil, bind_pure]

/-! ### All walks -/

/-- On every ontology a walk up, from whatever class and to whatever stop, goes at most one round more than there are
classes; along nested calls of a descent no path has an IRI twice, so that at most one call more than there are
classes is open at a time, and with that many calls a descent does all it does. -/
theorem walks_end (o : Ontology) :
    (∀ stop start, o.walkUpWithin stop start (o.classes.size + 1) [start] [start.iri] start =
      (o.walkUp stop start).mapError some) ∧
    (∀ iri c calls, o.find? iri = some c → (⟨[], c⟩ :: calls).IsChain o.Calls →
      (∀ f ∈ ⟨[], c⟩ :: calls, f.path.Nodup) ∧ (⟨[], c⟩ :: calls).length ≤ o.classes.size + 1) ∧
    ∀ iri, o.leavesWithin (o.classes.size + 1) iri = (o.leaves iri).mapError some := by
  refine ⟨walkUpWithin_eq, fun iri c calls hc hcalls => ⟨?_, room_first hc calls hcalls⟩, leavesWithin_eq⟩
  exact fun f hf => ((sound_of_isChain (.first hc) hcalls).1 f hf).nodup

/-- One class, at a key that is not its IRI; what stands at the key is its parent and its child. -/
def knot : Ontology :=
  { classes := Table.empty.insert "key"
      { iri := "iri", name := "Knot", parent := some "key", children := ["key"] } }

/-- Two rounds and two calls are what the walks in the knot need. -/
theorem walks_end_knot : ∃ c, knot.find? "key" = some c ∧
    ((knot.walkUpWithin (fun _ => false) c 2 [c] ["iri"] c).result =
        .error (some (.cycle "key" ["iri", "iri", "key"])) ∧
      (knot.walkUpWithin (fun _ => false) c 1 [c] ["iri"] c).result = .error none) ∧
    (([⟨[], c⟩, ⟨["iri"], c⟩] : List Call).IsChain knot.Calls ∧
      ∀ f ∈ ([⟨[], c⟩, ⟨["iri"], c⟩] : List Call), f.path.Nodup) ∧
    (knot.leavesWithin 2 "key").result = .error (some (.cycle "iri" ["iri", "iri"])) ∧
      (knot.leavesWithin 1 "key").result = .error none := by
  let c : OntClass := { iri := "iri", name := "Knot", parent := some "key", children := ["key"] }
  have hc : knot.find? "key" = some c := rfl
  have hcalls : ([⟨[], c⟩, ⟨["iri"], c⟩] : List Call).IsChain knot.Calls :=
    .cons_cons (.down (by decide) (List.mem_singleton.2 rfl) hc) (.singleton _)
  have hup : (knot.walkUp (fun _ => false) c).result = .error (.cycle "key" ["iri", "iri", "key"]) := by cbv
  have hdown : (knot.leaves "key").result = .error (.cycle "iri" ["iri", "iri"]) := by cbv
  obtain ⟨hwalk, hpaths, hleaves⟩ := walks_end knot
  refine ⟨c, hc, ⟨?_, by cbv⟩, ⟨hcalls, (hpaths "key" c _ hc hcalls).1⟩, ?_, by cbv⟩
  · have hresult := congrArg Attempt.result (hwalk (fun _ => false) c)
    rwa [Attempt.result_mapError, hup] at hresult
  · have hresult := congrArg Attempt.result (hleaves "key")
    rwa [Attempt.result_mapError, hdown] at hresult

end OntologySchema.Ontology
