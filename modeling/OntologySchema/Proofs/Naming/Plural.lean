import OntologySchema.Proofs.Naming.NormalForm

/-!
# Field names of plurals

A plural is formed of a name as it is written, and the field name is made of the plural. What stands before the end
of a name looks two characters ahead, and only for whether they are capitals or small letters (`BeginsLike`). So the
end of the plural is, for most names, the end of its field name too.

There are three kinds of names of letters and digits. Before a final `y` nothing changes when `ies` takes its place.
The last letter of an acronym becomes a word of its own with the `s` behind it, as any capital does that a small
letter follows. Behind any other name the `s` marks nothing (`Pluralized`).
-/

namespace OntologySchema

namespace Text

/-- Letters and digits of ASCII. -/
def isAlphanumeric (c : Char) : Bool := isUpper c || isLower c || isDigit c

/-- A letter or digit has one character as its lowercase, which is a `y` for that letter only. -/
theorem lowerChar_of_isAlphanumeric {c : Char} (h : isAlphanumeric c = true) :
    ∃ l, lowerChar c = [l] ∧ (l = 'y' ↔ c = 'y' ∨ c = 'Y') := by
  have hrange : ∀ n < 123,
      (Char.ofNat (lowerByRuns n caseRuns) = 'y' ↔ Char.ofNat n = 'y' ∨ Char.ofNat n = 'Y') := by decide
  have hlast : c ≤ 'z' := by
    simp only [isAlphanumeric, isUpper, isLower, isDigit, Bool.or_eq_true, Bool.and_eq_true,
      decide_eq_true_eq] at h
    rcases h with (h | h) | h
    · exact Char.le_trans h.2 (by decide)
    · exact h.2
    · exact Char.le_trans h.2 (by decide)
  have hdotted : c ≠ '\u0130' := by
    rintro rfl
    exact absurd hlast (by decide)
  refine ⟨_, if_neg hdotted, ?_⟩
  have hy := hrange c.toNat (Nat.lt_succ_of_le hlast)
  rwa [Char.ofNat_toNat] at hy

theorem lowerChar_s : lowerChar 's' = ['s'] := by decide

/-- Where there is no capital sigma each character is lowercased on its own. -/
theorem lowerFrom_eq_flatMap (inWord : Bool) (cs : List Char) (h : ∀ c ∈ cs, c ≠ 'Σ') :
    lowerFrom inWord cs = cs.flatMap lowerChar := by
  fun_induction lowerFrom inWord cs with
  | case1 => rfl
  | case2 inWord c rest ih =>
    obtain ⟨hc, hrest⟩ := List.forall_mem_cons.1 h
    rw [if_neg hc, ih hrest, List.flatMap_cons]

end Text

namespace Naming

open Text

variable {front xs ys cs : List Char} {c u : Char}

/-! ### What stands before the end of a name -/

/-- Two texts begin alike to what stands before them: with a capital or not, with a small letter or not, and with a
capital that a small letter follows or not. -/
structure BeginsLike (xs ys : List Char) : Prop where
  capital : xs.head?.any isUpper = ys.head?.any isUpper
  small : xs.head?.any isLower = ys.head?.any isLower
  word : (xs.head?.any isUpper && xs[1]?.any isLower) = (ys.head?.any isUpper && ys[1]?.any isLower)

theorem BeginsLike.boundaryAfter_eq (h : BeginsLike xs ys) (c : Char) (front : List Char) :
    boundaryAfter (c :: (front ++ xs)) 0 = boundaryAfter (c :: (front ++ ys)) 0 := by
  obtain ⟨hcapital, hsmall, hword⟩ := h
  rw [boundaryAfter_cons_zero, boundaryAfter_cons_zero]
  match front with
  | [] =>
    rw [List.nil_append, List.nil_append, ← hcapital]
    cases hx : xs.head?.any isUpper
    · rfl
    · rw [← hcapital, hx, Bool.true_and, Bool.true_and] at hword
      rw [hword]
  | [d] =>
    have hsecond : ∀ zs : List Char, ([d] ++ zs)[1]? = zs.head? := fun zs => by cases zs <;> rfl
    rw [hsecond, hsecond, hsmall]
    rfl
  | d :: e :: rest => rfl

theorem BeginsLike.of_two (c u : Char) (cs : List Char) : BeginsLike [c, u] (c :: u :: cs) :=
  ⟨rfl, rfl, rfl⟩

/-- The marks before two texts that begin alike are the same. -/
theorem markBoundaries_append (front : List Char) (h : BeginsLike xs ys) :
    ∃ marked, markBoundaries (front ++ xs) = marked ++ markBoundaries xs ∧
      markBoundaries (front ++ ys) = marked ++ markBoundaries ys := by
  induction front with
  | nil => exact ⟨[], rfl, rfl⟩
  | cons c front ih =>
    obtain ⟨marked, hxs, hys⟩ := ih
    refine ⟨(if boundaryAfter (c :: (front ++ xs)) 0 then [c, '_'] else [c]) ++ marked, ?_, ?_⟩
    · rw [List.cons_append, markBoundaries_cons, hxs, List.append_assoc]
    · rw [List.cons_append, markBoundaries_cons, hys, List.append_assoc, h.boundaryAfter_eq]

/-! ### The ends of names -/

theorem markBoundaries_singleton (u : Char) : markBoundaries [u] = [u] := rfl

/-- Before a small letter at the end nothing is marked. -/
theorem markBoundaries_s (u : Char) : markBoundaries [u, 's'] = [u, 's'] := rfl

/-- The `y` at the end of a name and the `ies` in its place have the same marks before them. -/
theorem markBoundaries_y (stem : List Char) : ∃ marked,
    markBoundaries (stem ++ ['y']) = marked ++ ['y'] ∧
      markBoundaries (stem ++ ['i', 'e', 's']) = marked ++ ['i', 'e', 's'] := by
  have hbegins : BeginsLike ['y'] ['i', 'e', 's'] := ⟨by decide, by decide, by decide⟩
  exact markBoundaries_append stem hbegins

/-- Whether a name ends in an acronym, that is, in two capitals. -/
def endsInAcronym (s : String) : Bool :=
  match s.toList.reverse with
  | u :: c :: _ => isUpper c && isUpper u
  | _ => false

theorem endsInAcronym_ofList (front : List Char) (c u : Char) :
    endsInAcronym (String.ofList (front ++ [c, u])) = (isUpper c && isUpper u) := by
  simp [endsInAcronym]

theorem endsInAcronym_iff {s : String} : endsInAcronym s = true ↔
    ∃ front c u, s = String.ofList (front ++ [c, u]) ∧ isUpper c = true ∧ isUpper u = true := by
  constructor
  · intro h
    unfold endsInAcronym at h
    split at h
    · next u c rest hs =>
      obtain ⟨hc, hu⟩ := Bool.and_eq_true_iff.1 h
      refine ⟨rest.reverse, c, u, ?_, hc, hu⟩
      rw [← String.toList_inj, String.toList_ofList, ← List.reverse_inj, hs]
      simp
    · cases h
  · rintro ⟨front, c, u, rfl, hc, hu⟩
    rw [endsInAcronym_ofList, hc, hu]
    rfl

/-- The small letter behind an acronym begins a word with the last capital. -/
theorem markBoundaries_acronym (front : List Char) (hc : isUpper c = true) (hu : isUpper u = true) :
    ∃ marked, markBoundaries (front ++ [c, u]) = marked ++ [u] ∧
      markBoundaries (front ++ [c, u, 's']) = marked ++ ['_', u, 's'] := by
  have hone : boundaryAfter [c, u] 0 = false := by
    rw [boundaryAfter_cons_zero]
    simpa using fun _ => not_small_of_isUpper hc
  have hmany : boundaryAfter [c, u, 's'] 0 = true := by
    have hfeed : c ≠ '\n' := by
      rintro rfl
      exact absurd hc (by decide)
    have hs : isLower 's' = true := by decide
    simp [boundaryAfter_cons_zero, hu, hfeed, hs]
  obtain ⟨marked, hfront, hfronts⟩ := markBoundaries_append front (.of_two c u ['s'])
  refine ⟨marked ++ [c], ?_, ?_⟩
  · rw [hfront, markBoundaries_cons, hone, markBoundaries_singleton, List.append_assoc]
    rfl
  · rw [hfronts, markBoundaries_cons, hmany, markBoundaries_s, List.append_assoc]
    rfl

/-- Behind a name that does not end in an acronym a small letter marks nothing. -/
theorem markBoundaries_concat (hcs : ∀ c ∈ cs, isAlphanumeric c = true)
    (h : endsInAcronym (String.ofList cs) = false) :
    markBoundaries (cs ++ ['s']) = markBoundaries cs ++ ['s'] := by
  rcases List.eq_nil_or_concat cs with rfl | ⟨front, u, rfl⟩
  · rfl
  rw [List.concat_eq_append] at hcs h ⊢
  rcases List.eq_nil_or_concat front with rfl | ⟨front, c, rfl⟩
  · rfl
  simp only [List.concat_eq_append, List.append_assoc, List.cons_append, List.nil_append] at hcs h ⊢
  rw [endsInAcronym_ofList] at h
  have hc : isAlphanumeric c = true := hcs c (by simp)
  have hboundary : boundaryAfter [c, u, 's'] 0 = boundaryAfter [c, u] 0 := by
    rw [boundaryAfter_cons_zero, boundaryAfter_cons_zero]
    -- a capital has a small letter or a digit before it
    cases hu : isUpper u
    · simp [hu]
    · have hcapital : isUpper c = false := by simpa [hu] using h
      have hsmall : (isLower c || isDigit c) = true := by simpa [isAlphanumeric, hcapital] using hc
      simp [hsmall]
  obtain ⟨marked, hfront, hfronts⟩ := markBoundaries_append front (.of_two c u ['s'])
  rw [hfront, hfronts, markBoundaries_cons, hboundary, markBoundaries_s,
    markBoundaries_cons c, markBoundaries_singleton]
  simp

/-- Behind the last character nothing is marked. -/
theorem markBoundaries_last (front : List Char) (u : Char) :
    ∃ marked, markBoundaries (front ++ [u]) = marked ++ [u] := by
  have hbegins : BeginsLike [u] [u] := ⟨rfl, rfl, rfl⟩
  obtain ⟨marked, h, -⟩ := markBoundaries_append front hbegins
  exact ⟨marked, h⟩

/-! ### Field names -/

theorem plural_y (stem : List Char) :
    plural (String.ofList (stem ++ ['y'])) = String.ofList (stem ++ ['i', 'e', 's']) := by
  simp [plural, String.ofList_append]

theorem plural_of_ne (front : List Char) (hu : u ≠ 'y') :
    plural (String.ofList (front ++ [u])) = String.ofList (front ++ [u] ++ ['s']) := by
  rw [plural, String.toList_ofList, List.reverse_append, List.reverse_singleton, String.ofList_append]
  split
  · next h => exact absurd (List.cons.inj h).1 hu
  · rw [← String.ofList_append]
    exact String.ofList_append.symm

/-- The field name of a name of letters and digits has each character in its own lowercase. -/
theorem snakeCase_ofList (hcs : ∀ c ∈ cs, isAlphanumeric c = true) :
    snakeCase (String.ofList cs) = String.ofList ((markBoundaries cs).flatMap lowerChar) := by
  have hclean : clean (String.ofList cs) = String.ofList cs := by
    rw [clean, String.toList_ofList, List.filter_eq_self.2]
    intro c hc
    rw [isSeparator_of (P := fun c => isAlphanumeric c = true) (by decide) (hcs c hc)]
    rfl
  rw [snakeCase_eq, hclean, String.toList_ofList, lower, lowerFrom_eq_flatMap]
  rintro c hc rfl
  rcases mem_markBoundaries hc with hc | hc
  · exact absurd (hcs _ hc) (by decide)
  · exact absurd hc (by decide)

/-- Behind a final `y` the field name changes as the name does. -/
theorem snakeCase_plural_y {stem : List Char} (h : ∀ c ∈ stem ++ ['y'], isAlphanumeric c = true) :
    snakeCase (plural (String.ofList (stem ++ ['y']))) =
      plural (snakeCase (String.ofList (stem ++ ['y']))) := by
  have hies : ∀ c ∈ stem ++ ['i', 'e', 's'], isAlphanumeric c = true :=
    List.forall_mem_append.2 ⟨(List.forall_mem_append.1 h).1, List.all_eq_true.1 (by decide)⟩
  obtain ⟨marked, hone, hmany⟩ := markBoundaries_y stem
  have hy : ['y'].flatMap lowerChar = ['y'] := by decide
  have hends : ['i', 'e', 's'].flatMap lowerChar = ['i', 'e', 's'] := by decide
  rw [plural_y, snakeCase_ofList hies, snakeCase_ofList h, hone, hmany, List.flatMap_append,
    List.flatMap_append, hy, hends, plural_y]

/-- The plural of a name that ends in an acronym has one underscore more, in front of the last letter. -/
theorem snakeCase_plural_acronym {s : String} (h : ∀ d ∈ s.toList, isAlphanumeric d = true)
    (hacronym : endsInAcronym s = true) : ∃ name l, snakeCase s = String.ofList (name ++ [l]) ∧
      snakeCase (plural s) = String.ofList (name ++ ['_', l, 's']) := by
  obtain ⟨front, c, u, rfl, hc, hu⟩ := endsInAcronym_iff.1 hacronym
  rw [String.toList_ofList] at h
  have hplural : plural (String.ofList (front ++ [c, u])) = String.ofList (front ++ [c, u, 's']) := by
    have hy : u ≠ 'y' := by
      rintro rfl
      exact absurd hu (by decide)
    simpa using plural_of_ne (front ++ [c]) hy
  have hs : ∀ d ∈ front ++ [c, u, 's'], isAlphanumeric d = true := by
    have hletter : isAlphanumeric 's' = true := by decide
    simpa [or_imp, forall_and, hletter] using h
  obtain ⟨marked, hone, hmany⟩ := markBoundaries_acronym front hc hu
  obtain ⟨l, hl, -⟩ := lowerChar_of_isAlphanumeric (h u (by simp))
  have hunderscore : lowerChar '_' = ['_'] := by decide
  refine ⟨marked.flatMap lowerChar, l, ?_, ?_⟩
  · rw [snakeCase_ofList h, hone, List.flatMap_append, List.flatMap_singleton, hl]
  · rw [hplural, snakeCase_ofList hs, hmany, List.flatMap_append]
    simp [hl, hunderscore, lowerChar_s]

/-- The plural of any other name has an `s` more. -/
theorem snakeCase_plural_other (h : ∀ d ∈ front ++ [u], isAlphanumeric d = true) (hy : u ≠ 'y')
    (hacronym : endsInAcronym (String.ofList (front ++ [u])) = false) : ∃ name l, (l = 'y' ↔ u = 'Y') ∧
    snakeCase (String.ofList (front ++ [u])) = String.ofList (name ++ [l]) ∧
      snakeCase (plural (String.ofList (front ++ [u]))) = String.ofList (name ++ [l] ++ ['s']) := by
  have hs : ∀ d ∈ front ++ [u] ++ ['s'], isAlphanumeric d = true :=
    List.forall_mem_append.2 ⟨h, List.all_eq_true.1 (by decide)⟩
  obtain ⟨marked, hlast⟩ := markBoundaries_last front u
  obtain ⟨l, hl, hly⟩ := lowerChar_of_isAlphanumeric (h u (by simp))
  refine ⟨marked.flatMap lowerChar, l, by rw [hly, or_iff_right hy], ?_, ?_⟩
  · rw [snakeCase_ofList h, hlast, List.flatMap_append, List.flatMap_singleton, hl]
  · rw [plural_of_ne front hy, snakeCase_ofList hs, markBoundaries_concat h hacronym, hlast, List.flatMap_append,
      List.flatMap_append, List.flatMap_singleton, List.flatMap_singleton, hl, lowerChar_s]

/-- The plural of a field name that ends in `l`. -/
theorem ofList_eq_plural_iff {name many : List Char} {l : Char} :
    String.ofList (name ++ many) = plural (String.ofList (name ++ [l])) ↔
      many = if l = 'y' then ['i', 'e', 's'] else [l, 's'] := by
  by_cases hl : l = 'y'
  · subst hl
    rw [plural_y, String.ofList_inj, List.append_cancel_left_eq, if_pos rfl]
  · rw [plural_of_ne name hl, String.ofList_inj, List.append_assoc, List.append_cancel_left_eq, if_neg hl]
    rfl

/-- The field name of the plural is the plural of the field name, but for names that end in an acronym or in a
capital Y. -/
theorem snakeCase_plural_iff {s : String} (h : ∀ c ∈ s.toList, isAlphanumeric c = true) :
    snakeCase (plural s) = plural (snakeCase s) ↔
      endsInAcronym s = false ∧ s.toList.getLast? ≠ some 'Y' := by
  cases hacronym : endsInAcronym s with
  | true =>
    obtain ⟨name, l, hone, hmany⟩ := snakeCase_plural_acronym h hacronym
    rw [hone, hmany, ofList_eq_plural_iff]
    refine iff_of_false ?_ (by simp)
    split <;> simp
  | false =>
    rw [and_iff_right rfl]
    obtain ⟨cs, rfl⟩ : ∃ cs, s = String.ofList cs := ⟨s.toList, String.ofList_toList.symm⟩
    rw [String.toList_ofList] at h ⊢
    rcases List.eq_nil_or_concat cs with rfl | ⟨front, u, rfl⟩
    · decide
    rw [List.concat_eq_append] at h hacronym ⊢
    rw [List.getLast?_concat, ne_eq, Option.some.injEq]
    by_cases hy : u = 'y'
    · subst hy
      exact iff_of_true (snakeCase_plural_y h) (by decide)
    · obtain ⟨name, l, hly, hone, hmany⟩ := snakeCase_plural_other h hy hacronym
      rw [hone, hmany, List.append_assoc, ofList_eq_plural_iff, ← hly]
      split <;> simp_all

end Naming

end OntologySchema
