import OntologySchema.Proofs.Naming

/-!
# The lowercase of lowercase

Whatever lowercase makes of a character is its own lowercase. The code points to which a run of the table leads
lie in front of the letters of any other run, or behind them, or, where every other code point is a capital,
between them (`leavesAlone`). This is the one thing that is checked over the table, for pairs of runs and not for
letters.

The capital sigma is no exception: both of its small forms are their own lowercase. So nothing in a text in
lowercase depends on its neighbours any more, and to lowercase it again changes nothing.
-/

namespace OntologySchema.Text

/-! ### The table -/

/-- Whether no run changes a code point from `low` to `high`. Where the code points are `spaced`, only every other
one of them is meant, from `low` on. The search stops where `lowerByRuns` stops. -/
def leavesAlone (low high : Nat) (spaced : Bool) : List CaseRun → Bool
  | [] => true
  | r :: rest =>
    high.blt r.first ||
      ((r.last.blt low || (spaced && r.step.beq 2 && ((low + r.first) % 2).beq 1)) &&
        leavesAlone low high spaced rest)

theorem lowerByRuns_of_leavesAlone {low high n : Nat} {spaced : Bool} {runs : List CaseRun}
    (h : leavesAlone low high spaced runs = true) (hlow : low ≤ n) (hhigh : n ≤ high)
    (hspaced : spaced = true → (n - low) % 2 = 0) : lowerByRuns n runs = n := by
  induction runs with
  | nil => rfl
  | cons r rest ih =>
    simp only [leavesAlone, Bool.or_eq_true, Bool.and_eq_true, Nat.blt_eq, Nat.beq_eq] at h
    rw [lowerByRuns]
    by_cases hfirst : n < r.first
    · rw [if_pos hfirst]
    · obtain ⟨hr, hrest⟩ := h.resolve_left (by omega)
      rw [if_neg hfirst]
      by_cases hlast : n ≤ r.last
      · obtain ⟨⟨hs, hstep⟩, hodd⟩ := hr.resolve_left (by omega)
        have heven := hspaced hs
        rw [if_pos hlast, if_neg (by rw [hstep]; omega)]
      · rw [if_neg hlast, ih hrest]

/-- A code point stays as it is, or a run of the table moves it. -/
theorem lowerByRuns_cases (n : Nat) (runs : List CaseRun) :
    lowerByRuns n runs = n ∨ ∃ r ∈ runs, (n ≤ r.last ∧ (n - r.first) % r.step = 0) ∧
      lowerByRuns n runs = r.target + (n - r.first) := by
  induction runs with
  | nil => exact .inl rfl
  | cons r rest ih =>
    rw [lowerByRuns]
    by_cases hfirst : n < r.first
    · exact .inl (if_pos hfirst)
    · rw [if_neg hfirst]
      by_cases hlast : n ≤ r.last
      · rw [if_pos hlast]
        by_cases hstep : (n - r.first) % r.step = 0
        · rw [if_pos hstep]
          exact .inr ⟨r, List.mem_cons_self, ⟨hlast, hstep⟩, rfl⟩
        · exact .inl (if_neg hstep)
      · rw [if_neg hlast]
        rcases ih with hsame | ⟨q, hq, hmoved⟩
        · exact .inl hsame
        · exact .inr ⟨q, List.mem_cons_of_mem _ hq, hmoved⟩

/-- Whether the small letters of a run are spaced like its capitals; a single letter may count as spaced. -/
def CaseRun.spaced (r : CaseRun) : Bool := r.step.beq 2 || r.first.beq r.last

/-- No run changes the small letters of another one, nor its own. -/
theorem leavesAlone_caseRuns : (caseRuns.all fun r =>
    leavesAlone r.target (r.target + (r.last - r.first)) r.spaced caseRuns) = true := by
  decide +kernel

/-- The small letters of the table are characters: there are no surrogates among them, nothing as low as the capitals
and the punctuation of ASCII, and not the one capital that the table leaves out. -/
theorem target_caseRuns : ∀ r ∈ caseRuns, 0x60 < r.target ∧
    (r.target + (r.last - r.first) < 0x130 ∨ 0x130 < r.target) ∧
    (r.target + (r.last - r.first) < 0xD800 ∨
      (0xDFFF < r.target ∧ r.target + (r.last - r.first) < 0x110000)) := by
  decide +kernel

theorem lowerByRuns_target {r : CaseRun} (hr : r ∈ caseRuns) {n : Nat} (hlast : n ≤ r.last)
    (hstep : (n - r.first) % r.step = 0) :
    lowerByRuns (r.target + (n - r.first)) caseRuns = r.target + (n - r.first) := by
  refine lowerByRuns_of_leavesAlone (List.all_eq_true.1 leavesAlone_caseRuns r hr) (by omega) (by omega)
    fun hspaced => ?_
  rcases Bool.or_eq_true_iff.1 hspaced with h | h
  · rw [Nat.eq_of_beq_eq_true h] at hstep
    omega
  · have hsingle := Nat.eq_of_beq_eq_true h
    omega

/-! ### Characters and texts -/

/-- What lowercase makes of the character `d` is its own lowercase, and it is `d` itself or comes after the capitals and
the punctuation of ASCII. -/
structure LowerOf (d c : Char) : Prop where
  settled : Settled c
  same_or_high : c = d ∨ 0x60 < c.toNat

theorem lowerOf_of_mem_lowerChar {c d : Char} (h : c ∈ lowerChar d) : LowerOf d c := by
  unfold lowerChar at h
  split at h
  · simp only [List.mem_cons, List.not_mem_nil, or_false] at h
    rcases h with rfl | rfl
    · exact ⟨by decide, .inr (by decide)⟩
    · exact ⟨by decide +kernel, .inr (by decide)⟩
  · next hd =>
    obtain rfl := List.mem_singleton.1 h
    rcases lowerByRuns_cases d.toNat caseRuns with hsame | ⟨r, hr, ⟨hlast, hstep⟩, hmoved⟩
    · have hfixed : Settled d := by rw [Settled, lowerChar, if_neg hd, hsame, Char.ofNat_toNat]
      rw [hsame, Char.ofNat_toNat]
      exact ⟨hfixed, .inl rfl⟩
    · obtain ⟨hlow, hdotted, hvalid⟩ := target_caseRuns r hr
      have hfixed := lowerByRuns_target hr hlast hstep
      rw [hmoved]
      generalize hm : r.target + (d.toNat - r.first) = m at hfixed ⊢
      have hnat : (Char.ofNat m).toNat = m := by
        have hm : m.isValidChar := by
          unfold Nat.isValidChar
          omega
        rw [Char.ofNat, dif_pos hm]
        rfl
      have hne : Char.ofNat m ≠ '\u0130' := by
        intro he
        have hdot : m = 0x130 := hnat.symm.trans (congrArg Char.toNat he)
        omega
      exact ⟨by rw [Settled, lowerChar, if_neg hne, hnat, hfixed], .inr (by omega)⟩

theorem lowerOf_of_mem_lowerFrom {inWord : Bool} {cs : List Char} {c : Char} :
    c ∈ lowerFrom inWord cs → ∃ d ∈ cs, LowerOf d c := by
  fun_induction lowerFrom inWord cs with
  | case1 => simp
  | case2 inWord d rest ih =>
    intro h
    rcases List.mem_append.1 h with h | h
    · refine ⟨d, List.mem_cons_self, ?_⟩
      split at h
      · -- either small form of a sigma
        rw [List.mem_singleton] at h
        split at h <;> subst h
        · exact ⟨by decide, .inr (by decide)⟩
        · exact ⟨by decide, .inr (by decide)⟩
      · exact lowerOf_of_mem_lowerChar h
    · obtain ⟨e, he, hlower⟩ := ih h
      exact ⟨e, List.mem_cons_of_mem _ he, hlower⟩

/-- A character that is its own lowercase is no capital of ASCII. -/
theorem isUpper_of_settled {c : Char} (h : Settled c) : isUpper c = false := by
  have hcapital : ∀ n < 91, isUpper (Char.ofNat n) = true → ¬ Settled (Char.ofNat n) := by decide
  cases hc : isUpper c with
  | false => rfl
  | true =>
    have hlast : c.toNat < 91 := Nat.lt_succ_of_le (of_decide_eq_true (Bool.and_eq_true_iff.1 hc).2)
    have hmoves := hcapital c.toNat hlast
    rw [Char.ofNat_toNat] at hmoves
    exact absurd h (hmoves hc)

end OntologySchema.Text
