import Mathlib.Data.List.Sort
import OntologySchema.Table.Basic

/-!
# Tables and their changes

A table is what a look-up gives (`ext_find?`): it does not remember in which order its entries came. So
changes of a table may be made in another order if no look-up tells the difference: changes of values by
functions that commute (`modify_comm`), and entries that are put in where there is nothing yet, if those
for the same key are the same (`Agree`, `insertNew?_comm`).

A table may be asked for several keys, in their order: the first that is there counts (`modifyFirst`,
`findSome?_find?`).
-/

namespace OntologySchema.Table

variable {α β : Type} {t u : Table α} {k k' : String}

/-- Tables with the same look-ups are equal. -/
theorem ext_find? (h : ∀ k, t.find? k = u.find? k) : t = u := by
  have hmem : ∀ e, e ∈ t.entries ↔ e ∈ u.entries := by
    intro e
    rw [← find?_eq_some_iff (k := e.1), h, find?_eq_some_iff]
  have hnodup : ∀ t : Table α, t.entries.Nodup := by
    intro t
    refine t.ordered.imp fun {a b} hlt he => ?_
    rw [he] at hlt
    exact String.lt_irrefl _ hlt
  have hperm := (List.perm_ext_iff_of_nodup (hnodup t) (hnodup u)).2 hmem
  refine ext (hperm.eq_of_pairwise (fun a b _ _ hab hba => ?_) t.ordered u.ordered)
  exact absurd (String.lt_trans hab hba) (String.lt_irrefl _)

/-- Changes by functions that commute do. -/
theorem modify_comm {f g : α → α} (h : ∀ a, f (g a) = g (f a)) (t : Table α) (k k' : String) :
    (t.modify k f).modify k' g = (t.modify k' g).modify k f := by
  refine ext_find? fun j => ?_
  simp only [find?_modify]
  split_ifs
  · simp [Function.comp_def, h]
  · rfl
  · rfl
  · rfl

/-- Put an entry into a table, unless there is one at its key. -/
def insertNew? (t : Table α) : Option (String × α) → Table α
  | none => t
  | some e => if t.contains e.1 then t else t.insert e.1 e.2

/-- What is at a key stays; only where there is nothing the new entry counts. -/
theorem find?_insertNew? (t : Table α) (x : Option (String × α)) (k : String) :
    (t.insertNew? x).find? k = (t.find? k).or ((x.filter fun e => e.1 = k).map (·.2)) := by
  cases x with
  | none => rw [insertNew?, Option.filter_none, Option.map_none, Option.or_none]
  | some e =>
    rw [insertNew?, Option.filter_some]
    by_cases hin : t.contains e.1 = true
    · rw [if_pos hin]
      obtain ⟨v, hv⟩ := contains_iff.1 hin
      by_cases hk : e.1 = k
      · rw [← hk, hv, Option.some_or]
      · simp [hk]
    · rw [if_neg hin, find?_insert]
      have hnone : t.find? e.1 = none := by
        simpa [contains_iff, Option.eq_none_iff_forall_ne_some] using hin
      by_cases hk : e.1 = k
      · simp [← hk, hnone]
      · simp [hk, Ne.symm hk]

/-- Entries for the same key are the same. -/
def Agree (x y : Option (String × α)) : Prop := ∀ e ∈ x, ∀ e' ∈ y, e.1 = e'.1 → e.2 = e'.2

/-- Entries that are made from their keys agree. -/
theorem agree_of_keys (f : String → α) (x y : Option String) :
    Agree (x.map fun k => (k, f k)) (y.map fun k => (k, f k)) := by
  intro e he e' he' hkey
  obtain ⟨_, _, rfl⟩ := Option.map_eq_some_iff.1 he
  obtain ⟨_, _, rfl⟩ := Option.map_eq_some_iff.1 he'
  exact congrArg f hkey

/-- New entries may come in either order, if they agree. -/
theorem insertNew?_comm {x y : Option (String × α)} (h : Agree x y) (t : Table α) :
    (t.insertNew? x).insertNew? y = (t.insertNew? y).insertNew? x := by
  refine ext_find? fun k => ?_
  simp only [find?_insertNew?, Option.or_assoc]
  congr 1
  cases hx : x.filter fun e => e.1 = k with
  | none => rw [Option.map_none, Option.none_or, Option.or_none]
  | some e =>
    cases hy : y.filter fun e => e.1 = k with
    | none => rw [Option.map_none, Option.none_or, Option.or_none]
    | some e' =>
      obtain ⟨hx, hk⟩ := Option.filter_eq_some_iff.1 hx
      obtain ⟨hy, hk'⟩ := Option.filter_eq_some_iff.1 hy
      have hkeys : e.1 = e'.1 := (of_decide_eq_true hk).trans (of_decide_eq_true hk').symm
      simp [h e hx e' hy hkeys]

theorem contains_insertNew? (t : Table α) (x : Option (String × α)) (k : String) :
    (t.insertNew? x).contains k = true ↔ t.contains k = true ∨ x.map (·.1) = some k := by
  unfold contains
  rw [find?_insertNew?, Option.isSome_or, Bool.or_eq_true]
  refine or_congr_right ?_
  cases x <;> simp [Option.filter_some, apply_ite]

theorem contains_foldl_insertNew? (entry : β → Option (String × α)) (bs : List β) (t : Table α)
    (k : String) : (bs.foldl (fun t b => t.insertNew? (entry b)) t).contains k = true ↔
      t.contains k = true ∨ ∃ b ∈ bs, (entry b).map (·.1) = some k := by
  induction bs generalizing t with
  | nil => simp
  | cons b bs ih => rw [List.foldl_cons, ih, contains_insertNew?, or_assoc, List.exists_mem_cons_iff]

/-! ### Several keys -/

theorem contains_modify (t : Table α) (j : String) (f : α → α) (k : String) :
    (t.modify j f).contains k = t.contains k := by
  unfold contains
  rw [find?_modify]
  split <;> simp

theorem modify_id (t : Table α) (k : String) : t.modify k (fun a => a) = t := by
  refine ext_find? fun j => ?_
  simp

/-- Change the entry that the first of the keys has, if one of them has an entry. -/
def modifyFirst (t : Table α) (keys : List String) (f : α → α) : Table α :=
  match keys.find? t.contains with
  | some k => t.modify k f
  | none => t

theorem modifyFirst_id (t : Table α) (keys : List String) : t.modifyFirst keys (fun a => a) = t := by
  unfold modifyFirst
  split
  · exact modify_id t _
  · rfl

theorem contains_modifyFirst (t : Table α) (keys : List String) (f : α → α) (k : String) :
    (t.modifyFirst keys f).contains k = t.contains k := by
  unfold modifyFirst
  split
  · exact contains_modify t _ f k
  · rfl

theorem find?_modifyFirst (t : Table α) (keys : List String) (f : α → α) (k : String) :
    (t.modifyFirst keys f).find? k =
      if keys.find? t.contains = some k then (t.find? k).map f else t.find? k := by
  unfold modifyFirst
  cases keys.find? t.contains with
  | none => rfl
  | some j => simp [eq_comm]

/-- The first entry that is found is that of the first key that is there. -/
theorem findSome?_find? (t : Table α) (keys : List String) :
    keys.findSome? t.find? = (keys.find? t.contains).bind t.find? := by
  induction keys with
  | nil => rfl
  | cons k keys ih =>
    rw [List.findSome?_cons, List.find?_cons, contains]
    cases h : t.find? k with
    | none => simp [ih]
    | some v => simp [h]

end OntologySchema.Table
