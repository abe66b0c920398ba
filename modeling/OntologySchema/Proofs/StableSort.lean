import Mathlib.Data.List.Nodup
import Mathlib.Data.Prod.Lex
import Mathlib.Data.String.Basic

/-!
# Stable sorting

A list sorted by a key holds what was there, in the order of the keys, and what has one key stays in the
order in which it was. How the sorting is done does not matter to this; and if no two entries have one
key, the order in which they were does not matter either (`mergeSort_eq_of_perm`).
-/

namespace OntologySchema

variable {α β κ : Type} [LinearOrder κ]

/-- `sorted` is `l` in the order of a key; entries with the same key keep their order. -/
structure StablySorted (key : α → κ) (l sorted : List α) : Prop where
  perm : sorted.Perm l
  ordered : sorted.Pairwise fun a b => key a ≤ key b
  stable : ∀ k, (sorted.filter fun a => key a = k) = l.filter fun a => key a = k

namespace StablySorted

theorem mem_iff {key : α → κ} {l sorted : List α} (h : StablySorted key l sorted) {a : α} :
    a ∈ sorted ↔ a ∈ l := h.perm.mem_iff

/-- A merge sort is stable. -/
theorem mergeSort {key : α → κ} {before : α → α → Bool}
    (hbefore : ∀ a b, before a b = true ↔ key a ≤ key b) (l : List α) :
    StablySorted key l (l.mergeSort before) := by
  have htrans : ∀ a b c, before a b = true → before b c = true → before a c = true := by
    intro a b c hab hbc
    exact (hbefore a c).2 (((hbefore a b).1 hab).trans ((hbefore b c).1 hbc))
  have htotal : ∀ a b, (before a b || before b a) = true := by
    intro a b
    rw [Bool.or_eq_true, hbefore, hbefore]
    exact le_total _ _
  refine ⟨List.mergeSort_perm l before, ?_, fun k => ?_⟩
  · exact (List.pairwise_mergeSort htrans htotal l).imp fun h => (hbefore _ _).1 h
  · -- the entries with the key `k` are in order already, so they are a part of the sorted list
    have hkey : (l.filter fun a => key a = k).Pairwise fun a b => before a b = true := by
      refine List.pairwise_filter.2 (List.pairwise_of_forall fun a b ha hb => ?_)
      rw [hbefore, of_decide_eq_true ha, of_decide_eq_true hb]
    have hsub := (List.sublist_mergeSort htrans htotal hkey List.filter_sublist).filter
      (fun a => decide (key a = k))
    simp only [List.filter_filter, Bool.and_self] at hsub
    exact (hsub.eq_of_length ((List.mergeSort_perm l before).filter _).length_eq.symm).symm

/-- Where keys are distinct, it is sorted in one way whatever the order was. -/
theorem mergeSort_eq_of_perm {key : α → κ} {before : α → α → Bool}
    (hbefore : ∀ a b, before a b = true ↔ key a ≤ key b) {l l' : List α} (hp : l'.Perm l)
    (hkeys : (l.map key).Nodup) : l'.mergeSort before = l.mergeSort before := by
  have hsorted := StablySorted.mergeSort hbefore l
  have hsorted' := StablySorted.mergeSort hbefore l'
  have hinj : ∀ a ∈ l, ∀ b ∈ l, key a = key b → a = b := List.inj_on_of_nodup_map hkeys
  refine (hsorted'.perm.trans (hp.trans hsorted.perm.symm)).eq_of_pairwise
    (fun a b ha hb hab hba => ?_) hsorted'.ordered hsorted.ordered
  exact hinj a (hp.mem_iff.1 (hsorted'.mem_iff.1 ha)) b (hsorted.mem_iff.1 hb) (le_antisymm hab hba)

end StablySorted

end OntologySchema
