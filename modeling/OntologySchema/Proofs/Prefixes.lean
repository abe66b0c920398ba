import Mathlib.Data.String.Basic
import OntologySchema.Prefixes

/-!
# Expanding and abbreviating

What is split at its first separator is put together from the two parts again, and only one way. The base
that abbreviates an IRI is one that fits (`fits_of_best?`), none that fits is longer (`length_le_of_best?`),
and there is one as soon as any fits (`exists_best?`).

In a table whose bases are no starts of one another (`Apart`) an IRI is on one base at most, and expanding and
abbreviating undo one another (`Apart.abbreviate_of_expand`, `Apart.expand_abbreviate`).
-/

namespace OntologySchema

namespace Text

variable {sep : Char}

/-- What is in front of the first separator has none. -/
theorem splitFirst?_append {before : List Char} (h : sep ∉ before) (after : List Char) :
    splitFirst? sep (before ++ sep :: after) = some (before, after) := by
  induction before with
  | nil => simp [splitFirst?]
  | cons c cs ih =>
    obtain ⟨hc, hcs⟩ : sep ≠ c ∧ sep ∉ cs := by simpa using h
    rw [List.cons_append, splitFirst?, if_neg (Ne.symm hc), ih hcs]
    rfl

theorem eq_of_splitFirst? {cs before after : List Char}
    (h : splitFirst? sep cs = some (before, after)) : cs = before ++ sep :: after ∧ sep ∉ before := by
  induction cs generalizing before after with
  | nil => cases h
  | cons c cs ih =>
    rw [splitFirst?] at h
    split at h
    · next hc =>
      cases h
      simp [hc]
    · next hc =>
      obtain ⟨⟨before', after'⟩, hsplit, hpair⟩ := Option.map_eq_some_iff.1 h
      cases hpair
      obtain ⟨rfl, hnot⟩ := ih hsplit
      exact ⟨rfl, by simp [Ne.symm hc, hnot]⟩

/-- A text with a separator has a first one. -/
theorem exists_splitFirst? {cs : List Char} (h : sep ∈ cs) :
    ∃ before after, splitFirst? sep cs = some (before, after) := by
  induction cs with
  | nil => cases h
  | cons c cs ih =>
    unfold splitFirst?
    split
    · exact ⟨_, _, rfl⟩
    · next hc =>
      obtain ⟨before, after, hsplit⟩ := ih ((List.mem_cons.1 h).resolve_left (Ne.symm hc))
      exact ⟨c :: before, after, by rw [hsplit]; rfl⟩

end Text

namespace Prefixes

variable {t : Prefixes} {short base suffix iri s : String}

/-- An abbreviated IRI. -/
def abbreviated (short suffix : String) : String := short ++ ":" ++ suffix

theorem toList_abbreviated (short suffix : String) :
    (abbreviated short suffix).toList = short.toList ++ ':' :: suffix.toList := by
  simp [abbreviated]

/-! ### Expanding -/

theorem expand_abbreviated (hs : ':' ∉ short.toList) (hbase : t.find? short = some base)
    (suffix : String) : expand t (abbreviated short suffix) = .ok (base ++ suffix) := by
  rw [expand, toList_abbreviated, Text.splitFirst?_append hs]
  simp [hbase]

/-- What can be expanded is a short name and a suffix. -/
theorem eq_abbreviated_of_expand (h : expand t s = .ok iri) : ∃ short base suffix,
    s = abbreviated short suffix ∧ ':' ∉ short.toList ∧ t.find? short = some base ∧
      iri = base ++ suffix := by
  unfold expand at h
  split at h
  · cases h
  · next before after hsplit =>
    obtain ⟨hs, hnot⟩ := Text.eq_of_splitFirst? hsplit
    split at h
    · cases h
    · next base hbase =>
      cases h
      refine ⟨.ofList before, base, .ofList after, ?_, by simpa using hnot, hbase, rfl⟩
      rw [← String.toList_inj, toList_abbreviated]
      simpa using hs

/-- What can be expanded is not empty. -/
theorem ne_empty_of_expand (h : expand t s = .ok iri) : s ≠ "" := by
  obtain ⟨short, base, suffix, rfl, -⟩ := eq_abbreviated_of_expand h
  rw [← String.toList_inj.ne, toList_abbreviated]
  simp

/-! ### Abbreviating -/

theorem fits_iff : fits iri base = true ↔ base ≠ "" ∧ base.toList <+: iri.toList := by
  simp [fits]

theorem prefix_append (base suffix : String) : base.toList <+: (base ++ suffix).toList := by
  simp

theorem exists_suffix (h : base.toList <+: iri.toList) : ∃ suffix, iri = base ++ suffix := by
  obtain ⟨cs, hcs⟩ := h
  exact ⟨.ofList cs, by rw [← String.toList_inj, ← hcs]; simp⟩

section Best

variable {b : Option (String × String)} {es : List (String × String)} {e m : String × String}

/-- Take an entry in place of the one that was best, if it fits and its base is longer. -/
def better (iri : String) (b : Option (String × String)) (e : String × String) :
    Option (String × String) :=
  if fits iri e.2 && b.all (fun m => m.2.length < e.2.length) then some e else b

theorem best?_eq (iri : String) (es : List (String × String)) :
    best? iri es = es.foldl (better iri) none := rfl

theorem foldl_better_mem (h : es.foldl (better iri) b = some m) :
    b = some m ∨ m ∈ es ∧ fits iri m.2 = true := by
  induction es generalizing b with
  | nil => exact .inl h
  | cons e es ih =>
    rcases ih h with hm | ⟨hm, hfits⟩
    · unfold better at hm
      split at hm
      · next hbetter =>
        cases hm
        exact .inr ⟨List.mem_cons_self, (Bool.and_eq_true_iff.1 hbetter).1⟩
      · exact .inl hm
    · exact .inr ⟨List.mem_cons_of_mem _ hm, hfits⟩

/-- What was best gives way to nothing shorter. -/
theorem foldl_better_ge (hb : b = some e) :
    ∃ m, es.foldl (better iri) b = some m ∧ e.2.length ≤ m.2.length := by
  induction es generalizing b e with
  | nil => exact ⟨e, hb, le_rfl⟩
  | cons e' es ih =>
    by_cases hbetter : (fits iri e'.2 && b.all (fun m => m.2.length < e'.2.length)) = true
    · obtain ⟨m, hm, hle⟩ := ih (b := better iri b e') (e := e') (if_pos hbetter)
      have hlt : e.2.length < e'.2.length := by simpa [hb] using (Bool.and_eq_true_iff.1 hbetter).2
      exact ⟨m, hm, hlt.le.trans hle⟩
    · exact ih (b := better iri b e') ((if_neg hbetter).trans hb)

theorem foldl_better_ge_of_mem (he : e ∈ es) (hfits : fits iri e.2 = true) :
    ∃ m, es.foldl (better iri) b = some m ∧ e.2.length ≤ m.2.length := by
  induction es generalizing b with
  | nil => cases he
  | cons e' es ih =>
    rcases List.mem_cons.1 he with rfl | he
    · by_cases hbetter : (fits iri e.2 && b.all (fun m => m.2.length < e.2.length)) = true
      · exact foldl_better_ge (b := better iri b e) (if_pos hbetter)
      · -- it fits, so what was best before it is no shorter
        obtain ⟨m, hm, hle⟩ : ∃ m, b = some m ∧ e.2.length ≤ m.2.length := by
          cases b with
          | none => simp [hfits] at hbetter
          | some m => exact ⟨m, rfl, by simpa [hfits] using hbetter⟩
        obtain ⟨m', hm', hle'⟩ := foldl_better_ge (b := better iri b e)
          ((if_neg hbetter).trans hm)
        exact ⟨m', hm', hle.trans hle'⟩
    · exact ih he

theorem fits_of_best? (h : best? iri es = some m) : m ∈ es ∧ fits iri m.2 = true := by
  rcases foldl_better_mem (best?_eq iri es ▸ h) with hnone | hm
  · cases hnone
  · exact hm

theorem exists_best? (he : e ∈ es) (hfits : fits iri e.2 = true) :
    ∃ m, best? iri es = some m ∧ e.2.length ≤ m.2.length :=
  foldl_better_ge_of_mem he hfits

theorem length_le_of_best? (h : best? iri es = some m) (he : e ∈ es) (hfits : fits iri e.2 = true) :
    e.2.length ≤ m.2.length := by
  obtain ⟨m', hm', hle⟩ := exists_best? he hfits
  obtain rfl : m = m' := Option.some.inj (h.symm.trans hm')
  exact hle

end Best

/-- The base that abbreviates an IRI is taken from its front. -/
theorem eq_of_best? (h : best? iri t.entries = some (short, base)) : ∃ suffix,
    t.find? short = some base ∧ iri = base ++ suffix ∧ t.abbreviate iri = abbreviated short suffix := by
  obtain ⟨hmem, hfits⟩ := fits_of_best? h
  obtain ⟨-, hpre⟩ := fits_iff.1 hfits
  obtain ⟨suffix, rfl⟩ := exists_suffix hpre
  refine ⟨suffix, Table.find?_eq_some_iff.2 hmem, rfl, ?_⟩
  rw [abbreviate, h]
  dsimp only
  rw [abbreviated, String.toList_append, ← String.length_toList, List.drop_left, String.ofList_toList]

/-- An IRI is its own abbreviation, or that by a base that it is on. -/
theorem abbreviate_cases (t : Prefixes) (iri : String) :
    t.abbreviate iri = iri ∨ ∃ short base suffix, t.find? short = some base ∧ iri = base ++ suffix ∧
      t.abbreviate iri = abbreviated short suffix := by
  cases hbest : best? iri t.entries with
  | none => exact .inl (by rw [abbreviate, hbest])
  | some e => exact .inr ⟨e.1, e.2, eq_of_best? hbest⟩

/-- No base is the start of the empty IRI. -/
theorem abbreviate_empty (t : Prefixes) : t.abbreviate "" = "" := by
  cases hbest : best? "" t.entries with
  | none => rw [abbreviate, hbest]
  | some e =>
    obtain ⟨hne, hpre⟩ := fits_iff.1 (fits_of_best? hbest).2
    exact absurd (by simpa using hpre) hne

/-! ### Bases apart -/

/-- An IRI that looks like an abbreviated one: it starts with a short name of the table and a colon. -/
def LooksAbbreviated (t : Prefixes) (iri : String) : Prop :=
  ∃ short base suffix, t.find? short = some base ∧ iri = abbreviated short suffix

theorem looksAbbreviated_of_expand (h : expand t s = .ok iri) : LooksAbbreviated t s := by
  obtain ⟨short, base, suffix, rfl, -, hb, -⟩ := eq_abbreviated_of_expand h
  exact ⟨short, base, suffix, hb, rfl⟩

/-- No base is empty or the start of another, and short names are without colons. -/
structure Apart (t : Prefixes) : Prop where
  base_ne : ∀ short base, t.find? short = some base → base ≠ ""
  no_colon : ∀ short base, t.find? short = some base → ':' ∉ short.toList
  no_start : ∀ short base short' base', t.find? short = some base → t.find? short' = some base' →
    base.toList <+: base'.toList → short = short'

instance (t : Prefixes) (iri : String) : Decidable (LooksAbbreviated t iri) :=
  decidable_of_iff (∃ e ∈ t.entries, (e.1 ++ ":").toList <+: iri.toList) <| by
    constructor
    · rintro ⟨e, he, hpre⟩
      obtain ⟨suffix, rfl⟩ := exists_suffix hpre
      exact ⟨e.1, e.2, suffix, Table.find?_eq_some_iff.2 he, rfl⟩
    · rintro ⟨short, base, suffix, hb, rfl⟩
      exact ⟨(short, base), Table.find?_eq_some_iff.1 hb, prefix_append _ suffix⟩

instance (t : Prefixes) : Decidable (Apart t) :=
  decidable_of_iff (∀ e ∈ t.entries, e.2 ≠ "" ∧ ':' ∉ e.1.toList ∧
      ∀ e' ∈ t.entries, e.2.toList <+: e'.2.toList → e.1 = e'.1) <| by
    simp only [← Table.find?_eq_some_iff, Prod.forall]
    exact ⟨fun h => ⟨fun s b hb => (h s b hb).1, fun s b hb => (h s b hb).2.1,
        fun s b s' b' hb hb' => (h s b hb).2.2 s' b' hb'⟩,
      fun h s b hb => ⟨h.base_ne s b hb, h.no_colon s b hb, fun s' b' hb' => h.no_start s b s' b' hb hb'⟩⟩

namespace Apart

variable {short' base' suffix' : String}

/-- An IRI starts with one base at most. -/
theorem unique (h : Apart t) (hb : t.find? short = some base) (hb' : t.find? short' = some base')
    (heq : base ++ suffix = base' ++ suffix') : short = short' ∧ suffix = suffix' := by
  have hpre : base.toList <+: (base' ++ suffix').toList := heq ▸ prefix_append base suffix
  have hshort : short = short' := by
    rcases List.prefix_or_prefix_of_prefix hpre (prefix_append base' suffix') with hle | hle
    · exact h.no_start _ _ _ _ hb hb' hle
    · exact (h.no_start _ _ _ _ hb' hb hle).symm
  subst hshort
  obtain rfl : base = base' := Option.some.inj (hb.symm.trans hb')
  exact ⟨rfl, (String.append_right_inj base).1 heq⟩

/-- An IRI on a base is abbreviated by the short name of that base. -/
theorem abbreviate_append (h : Apart t) (hb : t.find? short = some base) (suffix : String) :
    t.abbreviate (base ++ suffix) = abbreviated short suffix := by
  have hfits : fits (base ++ suffix) base = true :=
    fits_iff.2 ⟨h.base_ne _ _ hb, prefix_append base suffix⟩
  obtain ⟨⟨short', base'⟩, hbest, -⟩ := exists_best? (Table.mem_entries_of_find? hb) hfits
  obtain ⟨suffix', hb', heq, habb⟩ := eq_of_best? hbest
  obtain ⟨rfl, rfl⟩ := h.unique hb hb' heq
  exact habb

/-- What is expanded is abbreviated to what it was. -/
theorem abbreviate_of_expand (h : Apart t) (hs : expand t s = .ok iri) : t.abbreviate iri = s := by
  obtain ⟨short, base, suffix, rfl, -, hb, rfl⟩ := eq_abbreviated_of_expand hs
  exact h.abbreviate_append hb suffix

/-- An abbreviation is expanded to what it abbreviates. -/
theorem expand_abbreviate (h : Apart t) (iri : String) :
    t.abbreviate iri = iri ∨ expand t (t.abbreviate iri) = .ok iri := by
  rcases abbreviate_cases t iri with hsame | ⟨short, base, suffix, hb, rfl, habb⟩
  · exact .inl hsame
  · exact .inr (habb ▸ expand_abbreviated (h.no_colon short base hb) hb suffix)

end Apart

end Prefixes

end OntologySchema
