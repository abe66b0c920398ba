import Mathlib.Data.List.Basic
import OntologySchema.Proofs.Naming

/-!
# Where the underscores of a field name are

Snake case marks the words of a name in two passes. Each replaces the matches of a pattern, looked for from
left to right and each behind the last one (`Replaced`), so a match may use up a character that another one
would begin with. What the first pass misses for that reason stands behind the small letters of a word, and
there the second pass marks it; what the first pass has marked the second does not see, as the underscore
parts the two characters.

So the two passes come to a rule that looks at three characters only (`boundaryAfter`): a name has one
underscore for each boundary between its characters, and nothing else is changed but the case
(`snakeCase_boundaries`).
-/

namespace OntologySchema

namespace Text

@[simp] theorem isDigit_underscore : isDigit '_' = false := by decide

/-- A digit is no capital. -/
theorem isUpper_of_isDigit {c : Char} (h : isDigit c = true) : isUpper c = false := by
  have hlast : c ≤ '9' := of_decide_eq_true (Bool.and_eq_true_iff.1 h).2
  have hupper : ¬ 'A' ≤ c := fun hle => absurd (Char.le_trans hle hlast) (by decide)
  simp [isUpper, hupper]

/-- A capital is neither a small letter nor a digit. -/
theorem not_small_of_isUpper {c : Char} (h : isUpper c = true) :
    ¬ (isLower c || isDigit c) = true := by
  rw [Bool.or_eq_true]
  rintro (hc | hc)
  · exact absurd h (by simp [isUpper_of_isLower hc])
  · exact absurd h (by simp [isUpper_of_isDigit hc])

end Text

namespace Naming

open Text

/-! ### The passes as replacements -/

/-- A text with the matches of a pattern replaced, which are looked for from left to right and each behind the
last one. For a match at the front of a text the pattern gives what it is replaced by, and what follows it. -/
inductive Replaced (pattern : List Char → Option (List Char × List Char)) :
    List Char → List Char → Prop where
  | nil : Replaced pattern [] []
  | skip {c : Char} {cs out : List Char} :
    pattern (c :: cs) = none → Replaced pattern cs out → Replaced pattern (c :: cs) (c :: out)
  | hit {cs replacement rest out : List Char} :
    pattern cs = some (replacement, rest) → Replaced pattern rest out →
      Replaced pattern cs (replacement ++ out)

/-- Any character but a line feed, a capital, and small letters, one at least and as many as there are. An
underscore is put behind the first character. -/
def wordPattern : List Char → Option (List Char × List Char)
  | c :: u :: l :: rest =>
    if c ≠ '\n' && isUpper u && isLower l then
      some (c :: '_' :: u :: l :: rest.takeWhile isLower, rest.dropWhile isLower)
    else none
  | _ => none

/-- A small letter or digit, and a capital. An underscore is put between them. -/
def capitalPattern : List Char → Option (List Char × List Char)
  | c :: u :: rest => if (isLower c || isDigit c) && isUpper u then some ([c, '_', u], rest) else none
  | _ => none

/-- The small letters of a word are passed over. -/
theorem markWords_true (cs : List Char) :
    markWords true cs = cs.takeWhile isLower ++ markWords false (cs.dropWhile isLower) := by
  induction cs with
  | nil => rfl
  | cons c cs ih =>
    by_cases hc : isLower c = true
    · rw [markWords_small (by simpa using hc), ih, List.takeWhile_cons_of_pos hc,
        List.dropWhile_cons_of_pos hc]
      rfl
    · rw [List.takeWhile_cons_of_neg hc, List.dropWhile_cons_of_neg hc, List.nil_append,
        markWords.eq_def, markWords.eq_def]
      simp [hc]

/-- The first pass replaces the words. -/
theorem replaced_markWords : ∀ cs : List Char, Replaced wordPattern cs (markWords false cs)
  | [] => .nil
  | [_] => .skip rfl .nil
  | [_, _] => .skip rfl (.skip rfl .nil)
  | c :: u :: l :: rest => by
    by_cases hword : (c ≠ '\n' && isUpper u && isLower l) = true
    · rw [markWords_word (by simp) hword, markWords_true]
      have hlength : (rest.dropWhile isLower).length ≤ rest.length :=
        (List.dropWhile_sublist isLower).length_le
      have hpattern : wordPattern (c :: u :: l :: rest) =
          some (c :: '_' :: u :: l :: rest.takeWhile isLower, rest.dropWhile isLower) := if_pos hword
      exact .hit hpattern (replaced_markWords (rest.dropWhile isLower))
    · rw [markWords_other (by simp)]
      · exact .skip (if_neg hword) (replaced_markWords (u :: l :: rest))
      · intro u' l' rest' he
        cases he
        exact hword
termination_by cs => cs.length

/-- The second pass replaces the capitals behind small letters and digits. -/
theorem replaced_markCapitals (cs : List Char) : Replaced capitalPattern cs (markCapitals cs) := by
  fun_induction markCapitals cs with
  | case1 => exact .nil
  | case2 c => exact .skip rfl .nil
  | case3 c u rest hmark ih =>
    -- the pass goes on at the capital, which begins no match
    have hu : ¬ (isLower u || isDigit u) = true :=
      not_small_of_isUpper (Bool.and_eq_true_iff.1 hmark).2
    have hpattern : capitalPattern (c :: u :: rest) = some ([c, '_', u], rest) := if_pos hmark
    generalize markCapitals (u :: rest) = out at ih ⊢
    cases ih with
    | skip _ h => exact .hit hpattern h
    | hit hpattern _ =>
      unfold capitalPattern at hpattern
      split at hpattern <;> simp_all
  | case4 c u rest hmark ih => exact .skip (if_neg hmark) ih

/-! ### Boundaries -/

/-- Whether there is a boundary between the characters at `i` and `i + 1`: the second is a capital, and the
first is a small letter or digit, or it is no line feed and a small letter follows the capital. -/
def boundaryAfter (cs : List Char) (i : Nat) : Bool :=
  match cs[i]?, cs[i + 1]? with
  | some c, some u =>
    isUpper u && (isLower c || isDigit c || (c ≠ '\n' && cs[i + 2]?.any isLower))
  | _, _ => false

/-- A text with one underscore at each boundary. -/
def markBoundaries (cs : List Char) : List Char :=
  cs.zipIdx.flatMap fun (c, i) => if boundaryAfter cs i then [c, '_'] else [c]

theorem boundaryAfter_cons_zero (c : Char) (cs : List Char) :
    boundaryAfter (c :: cs) 0 = (cs.head?.any isUpper &&
      (isLower c || isDigit c || (c ≠ '\n' && cs[1]?.any isLower))) := by
  cases cs <;> rfl

theorem markBoundaries_cons (c : Char) (cs : List Char) :
    markBoundaries (c :: cs) =
      (if boundaryAfter (c :: cs) 0 then [c, '_'] else [c]) ++ markBoundaries cs := by
  rw [markBoundaries, List.zipIdx_cons, List.flatMap_cons, Nat.zero_add, List.zipIdx_succ,
    List.flatMap_map]
  rfl

theorem markCapitals_cons (c : Char) (cs : List Char) :
    markCapitals (c :: cs) =
      (if (isLower c || isDigit c) && cs.head?.any isUpper then [c, '_'] else [c]) ++
        markCapitals cs := by
  cases cs with
  | nil => simp [markCapitals]
  | cons u rest =>
    rw [markCapitals, List.head?_cons, Option.any_some]
    split <;> rfl

/-- The first pass begins with the character that the text begins with. -/
theorem head?_markWords (inWord : Bool) (cs : List Char) : (markWords inWord cs).head? = cs.head? := by
  fun_cases markWords inWord cs <;> rfl

/-- The second pass marks the boundary at the front, unless the first pass did. -/
theorem markCapitals_front {c : Char} {cs marked : List Char} (hhead : marked.head? = cs.head?)
    (hc : (isLower c || isDigit c) = true ∨
      ¬ (c ≠ '\n' && cs.head?.any isUpper && cs[1]?.any isLower) = true)
    (ih : markCapitals marked = markBoundaries cs) :
    markCapitals (c :: marked) = markBoundaries (c :: cs) := by
  have hboundary : ((isLower c || isDigit c) && marked.head?.any isUpper) =
      boundaryAfter (c :: cs) 0 := by
    rw [boundaryAfter_cons_zero, hhead]
    rcases hc with hc | hc
    · simp [hc]
    · cases hu : cs.head?.any isUpper <;> simp_all
  rw [markCapitals_cons, markBoundaries_cons, ih, hboundary]

/-- The two passes come to one underscore at each boundary. -/
theorem markCapitals_markWords (inWord : Bool) (cs : List Char) :
    markCapitals (markWords inWord cs) = markBoundaries cs := by
  fun_induction markWords inWord cs with
  | case1 => rfl
  | case2 inWord c rest hs ih =>
    exact markCapitals_front (head?_markWords true rest) (.inl (by simp_all)) ih
  | case3 inWord c hs u l rest hword ih =>
    -- the first pass marks the boundary in front of the capital
    obtain ⟨hcu, hl⟩ := Bool.and_eq_true_iff.1 hword
    have hlu : isUpper l = false := isUpper_of_isLower hl
    have hsmall : markCapitals (l :: markWords true rest) = markBoundaries (l :: rest) :=
      markCapitals_front (head?_markWords true rest) (.inl (by simp [hl])) ih
    have hcapital : markCapitals (u :: l :: markWords true rest) = markBoundaries (u :: l :: rest) :=
      markCapitals_front rfl (.inr (by simp [hlu])) hsmall
    have hboundary : boundaryAfter (c :: u :: l :: rest) 0 = true := by
      rw [boundaryAfter_cons_zero]
      simp_all
    rw [markCapitals_cons, markCapitals_cons, hcapital, markBoundaries_cons c, if_pos hboundary]
    simp
  | case4 inWord c hs u l rest hword ih =>
    exact markCapitals_front (head?_markWords false _) (.inr (by simpa using hword)) ih
  | case5 inWord c hs short hshort ih =>
    refine markCapitals_front (head?_markWords false short) (.inr ?_) ih
    rcases short with _ | ⟨u, _ | ⟨l, rest⟩⟩
    · simp
    · simp
    · exact absurd rfl (hshort u l rest)

/-- The first pass of snake case replaces the words of the cleaned name, the second the capitals behind small
letters and digits; and what comes of it is the cleaned name in lowercase with one underscore between two of its
characters just where there is a boundary. -/
theorem snakeCase_boundaries (s : String) :
    (∃ words capitals, Replaced wordPattern (clean s).toList words ∧
      Replaced capitalPattern words capitals ∧ snakeCase s = String.ofList (lower capitals)) ∧
    snakeCase s = String.ofList (lower (markBoundaries (clean s).toList)) := by
  constructor
  · exact ⟨_, _, replaced_markWords _, replaced_markCapitals _, rfl⟩
  · rw [snakeCase, markCapitals_markWords]

example : markBoundaries "aBCd\nEf1GIJ".toList = "a_B_Cd\nEf1_GIJ".toList := by decide

end Naming

end OntologySchema
