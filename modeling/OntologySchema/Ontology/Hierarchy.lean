import OntologySchema.Log
import OntologySchema.Ontology.Basic

/-!
# Walks in the class hierarchy

A climb goes from a class to its parent, the parent's parent and so on. It ends at a class without
parent, at a parent that the ontology does not have, at a class at which it was told to stop, or, as a
failure, at a parent it has met before. A descent collects the classes without children below a class,
in the order of the children, and fails if the children lead back to a class on the way down.

Both walks end on every ontology, also on one whose keys and IRIs disagree: a climb never looks up a
parent twice, and a descent holds no IRI twice on its way down. The number of keys, or of IRIs, that a
walk has not met decreases.
-/

namespace OntologySchema

/-- Why a walk has no answer. -/
inductive HierarchyError where
  | notFound (iri : String)
  | cycle (iri : String) (path : List String)
  deriving DecidableEq, Repr

/-- The wording of an error. -/
def HierarchyError.message : HierarchyError → String
  | .notFound iri => "Resource not found: " ++ iri
  | .cycle iri path =>
    "Cycle detected in class hierarchy at '" ++ iri ++ "' (path: " ++
      " -> ".intercalate path ++ ")"

namespace Ontology

/-! ### What a walk has not met -/

/-- How many members of `all` are not in `met`. -/
def unmet (all met : List String) : Nat := all.countP (fun k => !met.contains k)

theorem unmet_cons_lt {all met : List String} {k : String} (hk : k ∈ all) (hm : k ∉ met) :
    unmet all (k :: met) < unmet all met := by
  unfold unmet
  induction all with
  | nil => simp at hk
  | cons a all ih =>
    have hle : all.countP (fun x => !(k :: met).contains x) ≤
        all.countP (fun x => !met.contains x) :=
      List.countP_mono_left fun x _ hx => by
        simp only [List.contains_cons, Bool.not_or, Bool.and_eq_true] at hx
        exact hx.2
    by_cases ha : a = k
    · subst ha
      have h2 : (!met.contains a) = true := by simpa using hm
      rw [List.countP_cons_of_neg (by simp), List.countP_cons_of_pos (by simpa using h2)]
      omega
    · have hk' : k ∈ all := by
        rcases List.mem_cons.1 hk with h | h
        · exact absurd h.symm ha
        · exact h
      have ih := ih hk'
      by_cases hma : a ∈ met
      · rw [List.countP_cons_of_neg (by simp [hma]), List.countP_cons_of_neg (by simp [hma])]
        exact ih
      · rw [List.countP_cons_of_pos (by simp [hma, ha]), List.countP_cons_of_pos (by simp [hma])]
        omega

/-- The IRIs that the classes have, whatever their keys. -/
def iris (o : Ontology) : List String := o.classes.values.map (·.iri)

theorem mem_iris_of_find? {o : Ontology} {k : String} {c : OntClass} (h : o.find? k = some c) :
    c.iri ∈ o.iris := List.mem_map.2 ⟨c, Table.mem_values_of_find? h, rfl⟩

/-! ### Climbing -/

/-- Where a climb ends. -/
inductive Ending where
  /-- At a class without parent, or where it was told to stop. -/
  | top
  /-- At a class whose parent the ontology does not have. -/
  | missing (child parent : String)
  /-- At a parent met before. -/
  | cycle (parent : String)
  deriving DecidableEq, Repr

/-- The classes met on the way up from `c`, itself included, and the ending. The keys in `met` were
met before. -/
def climb (o : Ontology) (stop : OntClass → Bool) (met : List String) (c : OntClass) :
    List OntClass × Ending :=
  if stop c then ([c], .top)
  else
    match c.parent with
    | none => ([c], .top)
    | some p =>
      if _hm : p ∈ met then ([c], .cycle p)
      else
        match _hf : o.find? p with
        | none => ([c], .missing c.iri p)
        | some parent =>
          let above := climb o stop (p :: met) parent
          (c :: above.1, above.2)
termination_by unmet o.classes.keys met
decreasing_by exact unmet_cons_lt (Table.mem_keys_of_find? _hf) _hm

theorem climb_of_missing {o : Ontology} {stop : OntClass → Bool} {met : List String} {c : OntClass}
    {p : String} (hs : ¬ stop c = true) (hp : c.parent = some p) (hm : p ∉ met)
    (hf : o.find? p = none) : o.climb stop met c = ([c], .missing c.iri p) := by
  rw [climb, if_neg hs]
  simp only [hp, dif_neg hm]
  split
  · rfl
  · next hd => cases hd.symm.trans hf

theorem climb_of_found {o : Ontology} {stop : OntClass → Bool} {met : List String} {c d : OntClass}
    {p : String} (hs : ¬ stop c = true) (hp : c.parent = some p) (hm : p ∉ met)
    (hf : o.find? p = some d) :
    o.climb stop met c = (c :: (o.climb stop (p :: met) d).1, (o.climb stop (p :: met) d).2) := by
  rw [climb, if_neg hs]
  simp only [hp, dif_neg hm]
  split
  · next hnone => cases hnone.symm.trans hf
  · next d' hd =>
    obtain rfl := Option.some.inj (hd.symm.trans hf)
    rfl

/-- The classes on the way up from a class of the ontology. -/
def walkUp (o : Ontology) (stop : OntClass → Bool) (start : OntClass) :
    Attempt HierarchyError (List OntClass) :=
  let (chain, ending) := o.climb stop [start.iri] start
  let done : Attempt HierarchyError (List OntClass) := do
    Attempt.tell .trace "Walked up class hierarchy"
      [("start", .text start.iri), ("depth", .number chain.length)]
    return chain
  match ending with
  | .top => done
  | .missing child parent => do
    Attempt.tell .warn "Parent resource not found, ending traversal"
      [("iri", .text child), ("parent", .text parent)]
    done
  | .cycle parent => throw (.cycle parent (chain.map (·.iri) ++ [parent]))

/-- The class with an IRI, which has to exist. -/
def require (o : Ontology) (iri : String) : Except HierarchyError OntClass :=
  match o.find? iri with
  | some c => .ok c
  | none => .error (.notFound iri)

/-- A class, its parent, the parent's parent and so on. -/
def ancestry (o : Ontology) (iri : String) : Attempt HierarchyError (List OntClass) := do
  let start ← ExceptT.mk (pure (o.require iri))
  o.walkUp (fun _ => false) start

/-- The display names of a class and its ancestors. -/
def typeChain (o : Ontology) (iri : String) : Attempt HierarchyError (List String) := do
  return (← o.ancestry iri).map (·.name)

/-- The IRIs of the ancestors of a class, the nearest first. -/
def parentIris (o : Ontology) (iri : String) : Attempt HierarchyError (List String) := do
  return (← o.ancestry iri).tail.map (·.iri)

/-- Whether a class is the root or has the root among its ancestors. -/
def isAtOrBelowRoot (o : Ontology) (iri : String) : Attempt HierarchyError Bool :=
  match o.find? iri with
  | none => do
    Attempt.tell .warn "Could not find resource for root check" [("iri", .text iri)]
    return false
  | some start => do
    return (← o.walkUp (fun _ => false) start).any o.isRoot

/-- The classes whose properties a class has: itself and its ancestors up to the first root. -/
def inheritanceChain (o : Ontology) (iri : String) : Attempt HierarchyError (List OntClass) :=
  match o.find? iri with
  | none => do
    Attempt.tell .warn "Could not find resource for property lookup" [("iri", .text iri)]
    return []
  | some start => o.walkUp o.isRoot start

/-- The data properties that a class has, its own first. -/
def allDataProperties (o : Ontology) (iri : String) :
    Attempt HierarchyError (List DataProperty) := do
  return (← o.inheritanceChain iri).flatMap (·.dataProperties)

/-- The object properties that a class has, its own first. -/
def allObjectProperties (o : Ontology) (iri : String) :
    Attempt HierarchyError (List ObjectProperty) := do
  return (← o.inheritanceChain iri).flatMap (·.objectProperties)

/-! ### Descending -/

/-- Add a leaf, unless one with its IRI is there. -/
def addLeaf (leaves : List OntClass) (c : OntClass) : List OntClass :=
  if leaves.any (fun l => l.iri = c.iri) then leaves else leaves ++ [c]

/-- Add the leaves below each of the classes in `todo`, children of `parent`, to `leaves`. The way
down from the start, the nearest class first, is `path`. -/
def collectLeaves (o : Ontology) (path : List String) (parent : String) :
    List String → List OntClass → Attempt HierarchyError (List OntClass)
  | [], leaves => pure leaves
  | k :: todo, leaves =>
    match _hf : o.find? k with
    | none => do
      Attempt.tell .warn "Skipping unknown subclass"
        [("parent", .text parent), ("child", .text k)]
      collectLeaves o path parent todo leaves
    | some c =>
      if _hp : c.iri ∈ path then throw (.cycle c.iri (path.reverse ++ [c.iri]))
      else if c.isAbstract then do
        let leaves ← collectLeaves o (c.iri :: path) c.iri c.children leaves
        collectLeaves o path parent todo leaves
      else collectLeaves o path parent todo (addLeaf leaves c)
termination_by todo => (unmet o.iris path, todo.length)
decreasing_by
  · exact Prod.Lex.right _ (by simp)
  · exact Prod.Lex.left _ _ (unmet_cons_lt (mem_iris_of_find? _hf) _hp)
  · exact Prod.Lex.right _ (by simp)
  · exact Prod.Lex.right _ (by simp)

theorem collectLeaves_of_unknown {o : Ontology} {k : String} (hf : o.find? k = none)
    (path : List String) (parent : String) (todo : List String) (leaves : List OntClass) :
    o.collectLeaves path parent (k :: todo) leaves = (do
      Attempt.tell .warn "Skipping unknown subclass"
        [("parent", .text parent), ("child", .text k)]
      collectLeaves o path parent todo leaves) := by
  rw [collectLeaves]
  split
  · rfl
  · next hc => cases hc.symm.trans hf

theorem collectLeaves_of_found {o : Ontology} {k : String} {c : OntClass} (hf : o.find? k = some c)
    (path : List String) (parent : String) (todo : List String) (leaves : List OntClass) :
    o.collectLeaves path parent (k :: todo) leaves =
      if c.iri ∈ path then throw (.cycle c.iri (path.reverse ++ [c.iri]))
      else if c.isAbstract then (do
        let leaves ← collectLeaves o (c.iri :: path) c.iri c.children leaves
        collectLeaves o path parent todo leaves)
      else collectLeaves o path parent todo (addLeaf leaves c) := by
  rw [collectLeaves]
  split
  · next hnone => cases hnone.symm.trans hf
  · next d hd =>
    obtain rfl := Option.some.inj (hd.symm.trans hf)
    rfl

/-- The classes without children at or below a class. -/
def leaves (o : Ontology) (iri : String) : Attempt HierarchyError (List OntClass) := do
  let _ ← ExceptT.mk (pure (o.require iri))
  o.collectLeaves [] "" [iri] []

end Ontology

end OntologySchema
