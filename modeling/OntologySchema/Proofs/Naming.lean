import OntologySchema.Naming

/-!
# Suffixes of field names

An underscore with small letters after it passes through snake case as it is, and what stands before it
does not notice it: it ends a word as the end of the name does. So a suffix like `_id` may be put to the
display name or to the field name (`snakeCase_append`).

Each of the passes of snake case is shown to go over the name and leave the suffix alone; the inductions
follow the recursions of the passes.
-/

namespace OntologySchema

namespace Text

@[simp] theorem isUpper_underscore : isUpper '_' = false := by decide

@[simp] theorem isLower_underscore : isLower '_' = false := by decide

/-- A small letter is no capital. -/
theorem isUpper_of_isLower {c : Char} (h : isLower c = true) : isUpper c = false := by
  have hlower : 'a' ≤ c := of_decide_eq_true (Bool.and_eq_true_iff.1 h).1
  have hupper : ¬ c ≤ 'Z' := fun hle => absurd (Char.le_trans hlower hle) (by decide)
  simp [isUpper, hupper]

/-- A character that is its own lowercase. -/
def Settled (c : Char) : Prop := lowerChar c = [c]

instance (c : Char) : Decidable (Settled c) := inferInstanceAs (Decidable (lowerChar c = [c]))

theorem settled_of_isLower {c : Char} (h : isLower c = true) : Settled c := by
  have hrange : ∀ n < 123, 97 ≤ n → lowerByRuns n caseRuns = n := by decide
  obtain ⟨hfirst, hlast⟩ := Bool.and_eq_true_iff.1 h
  have hc : lowerByRuns c.toNat caseRuns = c.toNat :=
    hrange c.toNat (Nat.lt_succ_of_le (of_decide_eq_true hlast)) (of_decide_eq_true hfirst)
  have hne : c ≠ '\u0130' := by
    rintro rfl
    exact absurd h (by decide)
  rw [Settled, lowerChar, if_neg hne, hc, Char.ofNat_toNat]

/-- The capital sigma is not its own lowercase. -/
theorem ne_sigma_of_settled {c : Char} (h : Settled c) : c ≠ 'Σ' := by
  rintro rfl
  exact absurd h (by decide)

variable {w : List Char}

/-- A text whose characters are their own lowercase is its own lowercase, whatever stands before it. -/
theorem lowerFrom_eq_self : ∀ (inWord : Bool) {w : List Char}, (∀ c ∈ w, Settled c) →
    lowerFrom inWord w = w
  | _, [], _ => rfl
  | inWord, c :: w, h => by
    obtain ⟨hc, hw⟩ := List.forall_mem_cons.1 h
    rw [lowerFrom, if_neg (ne_sigma_of_settled hc), hc, lowerFrom_eq_self _ hw]
    rfl

/-- Small letters after an underscore are as they are in lowercase. -/
theorem lowerFrom_suffix (inWord : Bool) (hw : ∀ c ∈ w, isLower c = true) :
    lowerFrom inWord ('_' :: w) = '_' :: w := by
  refine lowerFrom_eq_self inWord (List.forall_mem_cons.2 ⟨by decide, fun c hc => ?_⟩)
  exact settled_of_isLower (hw c hc)

/-- An underscore ends a word, as the end of the text does. -/
theorem leadsWithCased_append (cs w : List Char) :
    leadsWithCased (cs ++ '_' :: w) = leadsWithCased cs := by
  induction cs with
  | nil =>
    have hignorable : isCaseIgnorable '_' = false := by decide
    have hcased : isCased '_' = false := by decide
    rw [List.nil_append, leadsWithCased.eq_2, hignorable, hcased]
    rfl
  | cons c cs ih => rw [List.cons_append, leadsWithCased, leadsWithCased, ih]

theorem lowerFrom_append (inWord : Bool) (cs : List Char) (hw : ∀ c ∈ w, isLower c = true) :
    lowerFrom inWord (cs ++ '_' :: w) = lowerFrom inWord cs ++ '_' :: w := by
  fun_induction lowerFrom inWord cs with
  | case1 inWord => exact lowerFrom_suffix inWord hw
  | case2 inWord c rest ih =>
    rw [List.cons_append, lowerFrom, leadsWithCased_append, ih, List.append_assoc]

end Text

namespace Naming

open Text

variable {w : List Char}

theorem isUpper_of_mem_suffix (hw : ∀ c ∈ w, isLower c = true) :
    ∀ c ∈ '_' :: w, isUpper c = false :=
  List.forall_mem_cons.2 ⟨isUpper_underscore, fun c hc => isUpper_of_isLower (hw c hc)⟩

/-! ### Marking words -/

/-- The step over a small letter of a word. -/
theorem markWords_small {inWord : Bool} {c : Char} (hs : (inWord && isLower c) = true)
    (rest : List Char) : markWords inWord (c :: rest) = c :: markWords true rest := by
  rw [markWords.eq_def]
  exact if_pos hs

/-- The step in front of a word. -/
theorem markWords_word {inWord : Bool} {c u l : Char} (hs : ¬ (inWord && isLower c) = true)
    (hword : (c ≠ '\n' && isUpper u && isLower l) = true) (rest : List Char) :
    markWords inWord (c :: u :: l :: rest) = c :: '_' :: u :: l :: markWords true rest := by
  rw [markWords.eq_def]
  exact (if_neg hs).trans (if_pos hword)

/-- The step over any other character. -/
theorem markWords_other {inWord : Bool} {c : Char} {rest : List Char}
    (hs : ¬ (inWord && isLower c) = true)
    (hword : ∀ u l rest', rest = u :: l :: rest' → ¬ (c ≠ '\n' && isUpper u && isLower l) = true) :
    markWords inWord (c :: rest) = c :: markWords false rest := by
  rw [markWords.eq_def]
  refine (if_neg hs).trans ?_
  split
  · next u l rest' => exact if_neg (hword u l rest' rfl)
  · rfl

/-- Without capitals there is nothing to mark. -/
theorem markWords_eq_self (inWord : Bool) (cs : List Char) (h : ∀ c ∈ cs, isUpper c = false) :
    markWords inWord cs = cs := by
  fun_induction markWords inWord cs with
  | case1 => rfl
  | case2 inWord c rest hs ih => rw [ih (List.forall_mem_cons.1 h).2]
  | case3 inWord c hs u l rest hword ih => simp [h u (by simp)] at hword
  | case4 inWord c hs u l rest hword ih => rw [ih (List.forall_mem_cons.1 h).2]
  | case5 inWord c hs short hshort ih => rw [ih (List.forall_mem_cons.1 h).2]

theorem markWords_append (inWord : Bool) (cs : List Char) (hw : ∀ c ∈ w, isLower c = true) :
    markWords inWord (cs ++ '_' :: w) = markWords inWord cs ++ '_' :: w := by
  fun_induction markWords inWord cs with
  | case1 inWord => exact markWords_eq_self inWord _ (isUpper_of_mem_suffix hw)
  | case2 inWord c rest hs ih =>
    rw [List.cons_append, markWords_small hs, ih]
    rfl
  | case3 inWord c hs u l rest hword ih =>
    rw [List.cons_append, List.cons_append, List.cons_append, markWords_word hs hword, ih]
    rfl
  | case4 inWord c hs u l rest hword ih =>
    rw [List.cons_append, markWords_other hs, ih]
    · rfl
    · intro u' l' rest' he
      cases he
      exact hword
  | case5 inWord c hs short hshort ih =>
    rw [List.cons_append, markWords_other hs, ih]
    · rfl
    · -- the underscore is one of the next two characters, and it is neither capital nor small
      intro u l rest he
      match short with
      | [] =>
        cases he
        simp
      | [_] =>
        cases he
        simp
      | u' :: l' :: rest' => exact absurd rfl (hshort u' l' rest')

/-! ### Marking capitals -/

/-- Without capitals there is nothing to mark. -/
theorem markCapitals_eq_self (cs : List Char) (h : ∀ c ∈ cs, isUpper c = false) :
    markCapitals cs = cs := by
  fun_induction markCapitals cs with
  | case1 => rfl
  | case2 => rfl
  | case3 c u rest hu ih => simp [h u (by simp)] at hu
  | case4 c u rest hu ih => rw [ih (List.forall_mem_cons.1 h).2]

theorem markCapitals_append (cs : List Char) (hw : ∀ c ∈ w, isLower c = true) :
    markCapitals (cs ++ '_' :: w) = markCapitals cs ++ '_' :: w := by
  have hsuffix : markCapitals ('_' :: w) = '_' :: w :=
    markCapitals_eq_self _ (isUpper_of_mem_suffix hw)
  fun_induction markCapitals cs with
  | case1 => exact hsuffix
  | case2 c =>
    rw [List.singleton_append, markCapitals, if_neg (by simp), hsuffix]
  | case3 c u rest h ih =>
    rw [List.cons_append, List.cons_append, markCapitals, if_pos h]
    exact congrArg (c :: '_' :: ·) ih
  | case4 c u rest h ih =>
    rw [List.cons_append, List.cons_append, markCapitals, if_neg h]
    exact congrArg (c :: ·) ih

/-! ### Snake case -/

/-- What no separator is, a separator is not. -/
theorem isSeparator_of {P : Char → Prop} (hP : ¬ P ' ' ∧ ¬ P '/' ∧ ¬ P '-') {c : Char} (h : P c) :
    isSeparator c = false := by
  cases hs : isSeparator c with
  | false => rfl
  | true =>
    simp only [isSeparator, Bool.or_eq_true, decide_eq_true_eq] at hs
    rcases hs with (rfl | rfl) | rfl
    · exact absurd h hP.1
    · exact absurd h hP.2.1
    · exact absurd h hP.2.2

theorem clean_append (s : String) {w : List Char} (hw : ∀ c ∈ w, isSeparator c = false) :
    clean (s ++ String.ofList w) = clean s ++ String.ofList w := by
  have hfilter : w.filter (fun c => !isSeparator c) = w :=
    List.filter_eq_self.2 fun c hc => by rw [hw c hc]; rfl
  rw [clean, clean, String.toList_append, String.toList_ofList, List.filter_append, hfilter,
    String.ofList_append]

/-- An underscore with small letters after it may be put to a display name or to its field name. -/
theorem snakeCase_append (s : String) (hw : ∀ c ∈ w, isLower c = true) :
    snakeCase (s ++ String.ofList ('_' :: w)) = snakeCase s ++ String.ofList ('_' :: w) := by
  have hseparator : ∀ c ∈ '_' :: w, isSeparator c = false :=
    List.forall_mem_cons.2 ⟨by decide, fun c hc =>
      isSeparator_of (P := fun c => isLower c = true) (by decide) (hw c hc)⟩
  rw [snakeCase, snakeCase, clean_append s hseparator, String.toList_append, String.toList_ofList,
    markWords_append false _ hw, markCapitals_append _ hw, lower, lower, lowerFrom_append false _ hw,
    String.ofList_append]

/-- The name of an identifier is that of what it identifies, with `_id` after it. -/
theorem snakeCase_id (s : String) : snakeCase (s ++ "_id") = snakeCase s ++ "_id" :=
  snakeCase_append (w := ['i', 'd']) s (List.all_eq_true.1 (by decide))

/-- The name of several identifiers is that of what they identify, with `_ids` after it. -/
theorem snakeCase_ids (s : String) : snakeCase (s ++ "_ids") = snakeCase s ++ "_ids" :=
  snakeCase_append (w := ['i', 'd', 's']) s (List.all_eq_true.1 (by decide))

end Naming

end OntologySchema
