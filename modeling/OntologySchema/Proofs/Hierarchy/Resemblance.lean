import OntologySchema.Proofs.Hierarchy.Ascent
import OntologySchema.Proofs.Hierarchy.Descent
import OntologySchema.Proofs.Likeness

/-!
# Walks in ontologies that resemble each other

A walk reads of a class its IRI, its name, its parent and its children. If two ontologies have the same
keys, and the classes at each key agree in these, then walks in the one end like those in the other: they
fail alike, or the classes that they find are counterparts of each other. What else is true of
counterparts is left open: they may be related by any `R`.
-/

namespace OntologySchema

/-- The classes have the same name and the same place in the hierarchy. -/
structure OntClass.SamePlace (c c' : OntClass) : Prop where
  iri_eq : c'.iri = c.iri
  name_eq : c'.name = c.name
  parent_eq : c'.parent = c.parent
  children_eq : c'.children = c.children

theorem OntClass.SamePlace.isAbstract_eq {c c' : OntClass} (h : c.SamePlace c') :
    c'.isAbstract = c.isAbstract := by
  rw [isAbstract, isAbstract, h.children_eq]

namespace Ontology

open Attempt

/-- The ontologies have counterparts of the same name and place at the same keys, and `R` relates them. The
root of the one, however it is designated, is the counterpart of the root of the other. -/
structure Resembles (R : OntClass → OntClass → Prop) (o o' : Ontology) : Prop where
  isRoot_eq : ∀ {c c'}, R c c' → o'.isRoot c' = o.isRoot c
  prefixes_eq : o'.prefixes = o.prefixes
  entries : List.Forall₂ (fun e e' => e.1 = e'.1 ∧ R e.2 e'.2) o.classes.entries o'.classes.entries
  place : ∀ {c c'}, R c c' → c.SamePlace c'

variable {R : OntClass → OntClass → Prop} {o o' : Ontology} {c c' : OntClass} {iri : String}
variable {stop stop' : OntClass → Bool}

/-- A root that is designated in the same way is found in the same place. -/
theorem isRoot_eq_of_place (hroot : o'.root = o.root) (hprefixes : o'.prefixes = o.prefixes)
    (hc : c.SamePlace c') : o'.isRoot c' = o.isRoot c := by
  rw [isRoot, isRoot, hroot, hprefixes, hc.iri_eq, hc.name_eq]

namespace Resembles

/-- An ontology resembles itself. -/
theorem refl (o : Ontology) : Resembles Eq o o where
  isRoot_eq := fun h => h ▸ rfl
  prefixes_eq := rfl
  entries := List.forall₂_same.2 fun _ _ => ⟨rfl, rfl⟩
  place := fun h => h ▸ ⟨rfl, rfl, rfl, rfl⟩

/-- The classes at one key are counterparts. -/
theorem find? (h : Resembles R o o') (k : String) : Option.Rel R (o.find? k) (o'.find? k) := by
  have hlookup : ∀ {es es' : List (String × OntClass)},
      List.Forall₂ (fun e e' => e.1 = e'.1 ∧ R e.2 e'.2) es es' →
      Option.Rel R (Table.lookup k es) (Table.lookup k es') := by
    intro es es' hes
    induction hes with
    | nil => exact .none
    | @cons e e' _ _ he _ ih =>
      rw [Table.lookup, Table.lookup, ← he.1]
      split
      · exact .some he.2
      · exact ih
  exact hlookup h.entries

theorem find?_eq_none (h : Resembles R o o') {k : String} (hf : o.find? k = none) :
    o'.find? k = none := by
  have hrel := h.find? k
  cases hf' : o'.find? k with
  | none => rfl
  | some c' =>
    rw [hf, hf'] at hrel
    cases hrel

theorem exists_of_find? (h : Resembles R o o') {k : String} (hf : o.find? k = some c) :
    ∃ c', o'.find? k = some c' ∧ R c c' := by
  have hrel := h.find? k
  cases hf' : o'.find? k with
  | none =>
    rw [hf, hf'] at hrel
    cases hrel
  | some c' =>
    rw [hf, hf'] at hrel
    cases hrel with
    | some hc => exact ⟨c', rfl, hc⟩

theorem values (h : Resembles R o o') :
    List.Forall₂ R o.classes.values o'.classes.values := by
  rw [Table.values, Table.values, List.forall₂_map_left_iff, List.forall₂_map_right_iff]
  exact h.entries.imp fun _ _ he => he.2

/-- What is read off counterparts is the same. -/
theorem map_eq (h : Resembles R o o') {α : Type} {f : OntClass → α}
    (hf : ∀ {c c' : OntClass}, c.SamePlace c' → f c' = f c) {l l' : List OntClass}
    (hl : List.Forall₂ R l l') : l'.map f = l.map f := by
  induction hl with
  | nil => rfl
  | cons hc _ ih => rw [List.map_cons, List.map_cons, ih, hf (h.place hc)]

/-! ### Climbing -/

theorem climb (h : Resembles R o o') (hstop : ∀ {c c'}, R c c' → stop' c' = stop c)
    (met : List String) (c : OntClass) : ∀ {c'}, R c c' →
      List.Forall₂ R (o.climb stop met c).1 (o'.climb stop' met c').1 ∧
        (o'.climb stop' met c').2 = (o.climb stop met c).2 := by
  fun_induction Ontology.climb o stop met c with
  | case1 met c hs =>
    intro c' hc
    rw [Ontology.climb, if_pos ((hstop hc).trans hs)]
    exact ⟨.cons hc .nil, rfl⟩
  | case2 met c hs hp =>
    intro c' hc
    rw [Ontology.climb, if_neg (mt (hstop hc).symm.trans hs)]
    simp only [(h.place hc).parent_eq, hp]
    exact ⟨.cons hc .nil, trivial⟩
  | case3 met c hs p hp hm =>
    intro c' hc
    rw [Ontology.climb, if_neg (mt (hstop hc).symm.trans hs)]
    simp only [(h.place hc).parent_eq, hp, dif_pos hm]
    exact ⟨.cons hc .nil, trivial⟩
  | case4 met c hs p hp hm hf =>
    intro c' hc
    rw [climb_of_missing (mt (hstop hc).symm.trans hs) ((h.place hc).parent_eq.trans hp) hm
      (h.find?_eq_none hf), (h.place hc).iri_eq]
    exact ⟨.cons hc .nil, rfl⟩
  | case5 met c hs p hp hm d hf above =>
    rename_i ih
    intro c' hc
    obtain ⟨d', hf', hd⟩ := h.exists_of_find? hf
    rw [climb_of_found (mt (hstop hc).symm.trans hs) ((h.place hc).parent_eq.trans hp) hm hf']
    exact ⟨.cons hc (ih hd).1, (ih hd).2⟩

theorem walkUp (h : Resembles R o o') (hstop : ∀ {c c'}, R c c' → stop' c' = stop c)
    (hc : R c c') : Alike (List.Forall₂ R) (o.walkUp stop c) (o'.walkUp stop' c') := by
  obtain ⟨hchain, hending⟩ := h.climb hstop [c.iri] c hc
  have hx : (o.walkUp stop c).result = _ := result_walkUp c
  have hy : (o'.walkUp stop' c').result = _ := result_walkUp c'
  rw [(h.place hc).iri_eq] at hy
  generalize o.climb stop [c.iri] c = x at *
  generalize o'.climb stop' [c.iri] c' = y at *
  obtain ⟨chain, ending⟩ := x
  obtain ⟨chain', ending'⟩ := y
  obtain rfl : ending' = ending := hending
  cases ending' with
  | cycle p =>
    have hiris : chain'.map (·.iri) = chain.map (·.iri) :=
      h.map_eq OntClass.SamePlace.iri_eq hchain
    dsimp only at hy
    rw [hiris] at hy
    exact .error hx hy
  | top => exact .ok hx hy hchain
  | missing child parent => exact .ok hx hy hchain

/-! ### The walks that are asked for -/

theorem require (h : Resembles R o o') (iri : String) :
    Alike R (ExceptT.mk (pure (o.require iri)) : Attempt HierarchyError OntClass)
      (ExceptT.mk (pure (o'.require iri))) := by
  unfold Ontology.require
  cases hf : o.find? iri with
  | none =>
    rw [h.find?_eq_none hf]
    exact .error rfl rfl
  | some c =>
    obtain ⟨c', hf', hc⟩ := h.exists_of_find? hf
    rw [hf']
    exact .ok rfl rfl hc

theorem ancestry (h : Resembles R o o') (iri : String) :
    Alike (List.Forall₂ R) (o.ancestry iri) (o'.ancestry iri) :=
  (h.require iri).bind fun _ _ _ _ hc => h.walkUp (fun _ => rfl) hc

theorem typeChain (h : Resembles R o o') (iri : String) :
    Alike Eq (o.typeChain iri) (o'.typeChain iri) :=
  (h.ancestry iri).bind fun _ _ _ _ hl => .pure (h.map_eq OntClass.SamePlace.name_eq hl).symm

theorem parentIris (h : Resembles R o o') (iri : String) :
    Alike Eq (o.parentIris iri) (o'.parentIris iri) := by
  refine (h.ancestry iri).bind fun _ _ _ _ hl => .pure ?_
  rw [List.map_tail, List.map_tail, h.map_eq OntClass.SamePlace.iri_eq hl]

theorem isAtOrBelowRoot (h : Resembles R o o') (iri : String) :
    Alike Eq (o.isAtOrBelowRoot iri) (o'.isAtOrBelowRoot iri) := by
  have hany : ∀ {l l' : List OntClass}, List.Forall₂ R l l' → l.any o.isRoot = l'.any o'.isRoot := by
    intro l l' hl
    induction hl with
    | nil => rfl
    | cons hc _ ih => rw [List.any_cons, List.any_cons, ih, h.isRoot_eq hc]
  unfold Ontology.isAtOrBelowRoot
  cases hf : o.find? iri with
  | none =>
    rw [h.find?_eq_none hf]
    exact .ok rfl rfl rfl
  | some c =>
    obtain ⟨c', hf', hc⟩ := h.exists_of_find? hf
    rw [hf']
    exact (h.walkUp (fun _ => rfl) hc).bind fun _ _ _ _ hl => .pure (hany hl)

theorem inheritanceChain (h : Resembles R o o') (iri : String) :
    Alike (List.Forall₂ R) (o.inheritanceChain iri) (o'.inheritanceChain iri) := by
  unfold Ontology.inheritanceChain
  cases hf : o.find? iri with
  | none =>
    rw [h.find?_eq_none hf]
    exact .ok rfl rfl .nil
  | some c =>
    obtain ⟨c', hf', hc⟩ := h.exists_of_find? hf
    rw [hf']
    exact h.walkUp (fun hc => h.isRoot_eq hc) hc

/-! ### Descending -/

theorem addLeaf (h : Resembles R o o') {ls ls' : List OntClass} (hls : List.Forall₂ R ls ls')
    (hc : R c c') : List.Forall₂ R (Ontology.addLeaf ls c) (Ontology.addLeaf ls' c') := by
  have hany : (ls'.any fun l => l.iri = c'.iri) = ls.any fun l => l.iri = c.iri := by
    induction hls with
    | nil => rfl
    | cons hl _ ih => rw [List.any_cons, List.any_cons, ih, (h.place hl).iri_eq, (h.place hc).iri_eq]
  unfold Ontology.addLeaf
  rw [hany]
  split
  · exact hls
  · exact List.rel_append hls (.cons hc .nil)

theorem collectLeaves (h : Resembles R o o') (path : List String) (parent : String)
    (todo : List String) (ls : List OntClass) : ∀ {ls'}, List.Forall₂ R ls ls' →
      Alike (List.Forall₂ R) (o.collectLeaves path parent todo ls)
        (o'.collectLeaves path parent todo ls') := by
  fun_induction Ontology.collectLeaves o path parent todo ls with
  | case1 path parent ls =>
    intro ls' hls
    rw [Ontology.collectLeaves]
    exact .pure hls
  | case2 path parent k todo ls hf ih =>
    intro ls' hls
    rw [collectLeaves_of_unknown (h.find?_eq_none hf)]
    exact (Alike.refl (R := Eq) _ fun _ => rfl).bind fun _ _ _ _ _ => ih hls
  | case3 path parent k todo ls c hf hp =>
    intro ls' _
    obtain ⟨c', hf', hc⟩ := h.exists_of_find? hf
    rw [collectLeaves_of_found hf', (h.place hc).iri_eq, if_pos hp]
    exact .error rfl rfl
  | case4 path parent k todo ls c hf hp hchildren ihd ih =>
    intro ls' hls
    obtain ⟨c', hf', hc⟩ := h.exists_of_find? hf
    rw [collectLeaves_of_found hf', (h.place hc).iri_eq, (h.place hc).isAbstract_eq,
      (h.place hc).children_eq, if_neg hp, if_pos hchildren]
    exact (ihd hls).bind fun mid _ _ _ hmid => ih mid hmid
  | case5 path parent k todo ls c hf hp hchildren ih =>
    intro ls' hls
    obtain ⟨c', hf', hc⟩ := h.exists_of_find? hf
    rw [collectLeaves_of_found hf', (h.place hc).iri_eq, (h.place hc).isAbstract_eq, if_neg hp,
      if_neg hchildren]
    exact ih (h.addLeaf hls hc)

theorem leaves (h : Resembles R o o') (iri : String) :
    Alike (List.Forall₂ R) (o.leaves iri) (o'.leaves iri) :=
  (h.require iri).bind fun _ _ _ _ _ => h.collectLeaves [] "" [iri] [] .nil

end Resembles

end Ontology

end OntologySchema
