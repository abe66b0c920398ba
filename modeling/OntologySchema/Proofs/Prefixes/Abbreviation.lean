import Mathlib.Data.List.Induction
import OntologySchema.Proofs.ByteOrder
import OntologySchema.Proofs.Prefixes

/-!
# Which prefix abbreviates an IRI

Bases may overlap, they may be empty, and several short names may stand for one base. An IRI is abbreviated by
the longest of the bases that it starts with, and of the short names of that base by the least
(`Abbreviates`); a table has one such prefix as soon as any base that is not empty fits.

The scan over the table keeps the first entry among those with the longest base (`best?_first`). Two bases of
one length that fit one IRI are equal, and entries are in the order of their short names, so the first is the
one with the least short name.

An abbreviation says which base was taken away, up to the first colon; so where no short name has a colon it can
be expanded to the IRI again, whatever the suffix looks like (`expand_abbreviate_of_noColon`). The other way
round, a short name and a suffix come back just when the short name stands for the prefix that abbreviates what
they are expanded to (`abbreviate_expanded_iff`).
-/

namespace OntologySchema.Prefixes

variable {t : Prefixes} {iri short base suffix : String}

/-- The prefix by which an IRI is abbreviated: a longest base that the IRI starts with, under the least of its
short names. -/
structure Abbreviates (t : Prefixes) (iri short base : String) : Prop where
  registered : t.find? short = some base
  nonempty : base ≠ ""
  start : base.toList <+: iri.toList
  longest : ∀ short' base', t.find? short' = some base' → base'.toList <+: iri.toList →
    base'.utf8ByteSize ≤ base.utf8ByteSize
  least : ∀ short', t.find? short' = some base → short' ≠ short → Text.utf8 short < Text.utf8 short'

/-! ### Bases of one IRI -/

theorem utf8ByteSize_le_of_prefix {s s' : String} (h : s.toList <+: s'.toList) :
    s.utf8ByteSize ≤ s'.utf8ByteSize := by
  obtain ⟨suffix, rfl⟩ := exists_suffix h
  rw [String.utf8ByteSize_append]
  omega

/-- A text that is no shorter than one that it is the start of is equal to it. -/
theorem eq_of_prefix_of_utf8ByteSize_le {s s' : String} (h : s.toList <+: s'.toList)
    (hle : s'.utf8ByteSize ≤ s.utf8ByteSize) : s = s' := by
  obtain ⟨suffix, rfl⟩ := exists_suffix h
  rw [String.utf8ByteSize_append] at hle
  have hempty : suffix = "" := String.utf8ByteSize_eq_zero_iff.1 (by omega)
  rw [hempty, String.append_empty]

/-- Of two texts with which an IRI starts, one that is no longer is the start of the other. -/
theorem prefix_of_length_le {base' : String} (h : base.toList <+: iri.toList)
    (h' : base'.toList <+: iri.toList) (hle : base'.length ≤ base.length) :
    base'.toList <+: base.toList := by
  refine List.prefix_of_prefix_length_le h' h ?_
  rwa [String.length_toList, String.length_toList]

/-! ### The first of the longest -/

theorem best?_concat (iri : String) (es : List (String × String)) (e : String × String) :
    best? iri (es ++ [e]) = better iri (best? iri es) e := by
  rw [best?_eq, best?_eq, List.foldl_append]
  rfl

/-- What abbreviates an IRI stands in front of all entries with bases as long that fit. -/
theorem best?_first {es : List (String × String)} {m : String × String}
    (h : best? iri es = some m) : ∃ before after, es = before ++ m :: after ∧
      ∀ e ∈ before, fits iri e.2 = true → e.2.length < m.2.length := by
  -- the scan goes from the front, so the induction is on the last entry
  induction es using List.reverseRecOn generalizing m with
  | nil => cases h
  | append_singleton es e ih =>
    rw [best?_concat, better] at h
    split at h
    · next hbetter =>
      cases h
      obtain ⟨-, hlonger⟩ := Bool.and_eq_true_iff.1 hbetter
      refine ⟨es, [], rfl, fun e' he' hfits => ?_⟩
      obtain ⟨m, hm, hle⟩ := exists_best? he' hfits
      have hlt : m.2.length < e.2.length := by simpa [hm] using hlonger
      exact Nat.lt_of_le_of_lt hle hlt
    · obtain ⟨before, after, rfl, hbefore⟩ := ih h
      exact ⟨before, after ++ [e], by simp, hbefore⟩

/-- What the scan over the table finds is the prefix by which the IRI is abbreviated. -/
theorem abbreviates_of_best? (h : best? iri t.entries = some (short, base)) :
    t.Abbreviates iri short base := by
  obtain ⟨hmem, hfits⟩ := fits_of_best? h
  obtain ⟨hne, hstart⟩ := fits_iff.1 hfits
  constructor
  case registered => exact Table.find?_eq_some_iff.2 hmem
  case nonempty => exact hne
  case start => exact hstart
  case longest =>
    intro short' base' hb' hstart'
    by_cases hempty : base' = ""
    · simp [hempty]
    · have hle : base'.length ≤ base.length := length_le_of_best? h
        (Table.mem_entries_of_find? hb') (fits_iff.2 ⟨hempty, hstart'⟩)
      exact utf8ByteSize_le_of_prefix (prefix_of_length_le hstart hstart' hle)
  case least =>
    intro short' hb' hshort
    obtain ⟨before, after, hentries, hbefore⟩ := best?_first h
    have hmem' : (short', base) ∈ before ++ (short, base) :: after :=
      hentries ▸ Table.mem_entries_of_find? hb'
    rw [Text.utf8_lt_utf8_iff]
    rcases List.mem_append.1 hmem' with hin | hin
    · exact absurd (hbefore _ hin hfits) (Nat.lt_irrefl _)
    · rcases List.mem_cons.1 hin with heq | hin
      · exact absurd (congrArg Prod.fst heq) hshort
      · have hordered := hentries ▸ t.ordered
        exact (List.pairwise_cons.1 (List.pairwise_append.1 hordered).2.1).1 _ hin

/-! ### Abbreviating -/

/-- An IRI is abbreviated by one prefix only. -/
theorem Abbreviates.unique {short' base' : String} (h : t.Abbreviates iri short base)
    (h' : t.Abbreviates iri short' base') : short' = short ∧ base' = base := by
  have hbase : base' = base := by
    rcases List.prefix_or_prefix_of_prefix h'.start h.start with hpre | hpre
    · exact eq_of_prefix_of_utf8ByteSize_le hpre (h'.longest _ _ h.registered h.start)
    · exact (eq_of_prefix_of_utf8ByteSize_le hpre (h.longest _ _ h'.registered h'.start)).symm
  subst hbase
  by_contra hne
  have hshort : short' ≠ short := fun he => hne ⟨he, rfl⟩
  exact absurd (h'.least short h.registered hshort.symm)
    (List.lt_asymm (h.least short' h'.registered hshort))

/-- A base that is not empty and that an IRI starts with is enough for the IRI to be abbreviated. -/
theorem exists_best?_of_start (hb : t.find? short = some base) (hne : base ≠ "")
    (hstart : base.toList <+: iri.toList) : ∃ m, best? iri t.entries = some m := by
  obtain ⟨m, hm, -⟩ := exists_best? (Table.mem_entries_of_find? hb) (fits_iff.2 ⟨hne, hstart⟩)
  exact ⟨m, hm⟩

/-- The base is replaced by the short name and a colon. -/
theorem Abbreviates.abbreviate_eq (h : t.Abbreviates (base ++ suffix) short base) :
    t.abbreviate (base ++ suffix) = abbreviated short suffix := by
  obtain ⟨⟨short', base'⟩, hbest⟩ := exists_best?_of_start h.registered h.nonempty h.start
  obtain ⟨rfl, rfl⟩ := h.unique (abbreviates_of_best? hbest)
  obtain ⟨suffix', -, heq, habb⟩ := eq_of_best? hbest
  rw [habb, (String.append_right_inj base').1 heq]

/-- An IRI that starts with no base that is not empty is its own abbreviation. -/
theorem abbreviate_eq_self (h : ∀ short base, t.find? short = some base → base ≠ "" →
    ¬ base.toList <+: iri.toList) : t.abbreviate iri = iri := by
  cases hbest : best? iri t.entries with
  | none => rw [abbreviate, hbest]
  | some m =>
    have habb : t.Abbreviates iri m.1 m.2 := abbreviates_of_best? hbest
    exact absurd habb.start (h _ _ habb.registered habb.nonempty)

/-- Where no short name has a colon, an IRI that starts with a base that is not empty is abbreviated by the
longest such base, under the least of its short names, and the abbreviation is expanded to the IRI again. An IRI
that starts with none is its own abbreviation. -/
theorem expand_abbreviate_of_noColon (t : Prefixes)
    (ht : ∀ short base, t.find? short = some base → ':' ∉ short.toList) (iri : String) :
    ((∃ short base, t.find? short = some base ∧ base ≠ "" ∧ base.toList <+: iri.toList) →
      expand t (t.abbreviate iri) = .ok iri ∧
        ∃ short base suffix, t.Abbreviates iri short base ∧ iri = base ++ suffix ∧
          t.abbreviate iri = abbreviated short suffix) ∧
    ((∀ short base, t.find? short = some base → base ≠ "" → ¬ base.toList <+: iri.toList) →
      t.abbreviate iri = iri) := by
  refine ⟨?_, abbreviate_eq_self⟩
  rintro ⟨short, base, hb, hne, hstart⟩
  obtain ⟨⟨short', base'⟩, hbest⟩ := exists_best?_of_start hb hne hstart
  have habb : t.Abbreviates iri short' base' := abbreviates_of_best? hbest
  obtain ⟨suffix, rfl⟩ := exists_suffix habb.start
  refine ⟨?_, short', base', suffix, habb, rfl, habb.abbreviate_eq⟩
  rw [habb.abbreviate_eq]
  exact expand_abbreviated (ht short' base' habb.registered) habb.registered suffix

/-- A table of overlapping, equal and empty bases. -/
def overlapping : Prefixes :=
  .ofList [("", "http://ü/"), ("b", "http://ü/x:"), ("a", "http://ü/x:"), ("e", "")]

theorem expand_abbreviate_of_noColon_overlapping :
    (∀ short base, overlapping.find? short = some base → ':' ∉ short.toList) ∧
      (∃ short base, overlapping.find? short = some base ∧ base ≠ "" ∧
        base.toList <+: "http://ü/x:y:ß".toList) ∧
      expand overlapping (overlapping.abbreviate "http://ü/x:y:ß") = .ok "http://ü/x:y:ß" ∧
      (∀ short base, overlapping.find? short = some base → base ≠ "" →
        ¬ base.toList <+: "urn:x".toList) ∧
      overlapping.abbreviate "urn:x" = "urn:x" := by
  have hcolon : ∀ short base, overlapping.find? short = some base → ':' ∉ short.toList := by
    simp only [Table.find?_eq_some_iff, ← Prod.forall']
    decide
  have hfits : ∃ short base, overlapping.find? short = some base ∧ base ≠ "" ∧
      base.toList <+: "http://ü/x:y:ß".toList := ⟨"a", "http://ü/x:", by decide⟩
  have hnone : ∀ short base, overlapping.find? short = some base → base ≠ "" →
      ¬ base.toList <+: "urn:x".toList := by
    simp only [Table.find?_eq_some_iff, ← Prod.forall']
    decide
  exact ⟨hcolon, hfits, ((expand_abbreviate_of_noColon overlapping hcolon _).1 hfits).1, hnone,
    (expand_abbreviate_of_noColon overlapping hcolon _).2 hnone⟩

example : overlapping.abbreviate "http://ü/x:y:ß" = "a:y:ß" := by decide

/-! ### Abbreviating what was expanded -/

/-- An abbreviation tells the short name and the suffix, if no short name has a colon. -/
theorem abbreviated_inj {short' suffix' : String} (hs : ':' ∉ short.toList)
    (hs' : ':' ∉ short'.toList) (h : abbreviated short suffix = abbreviated short' suffix') :
    short = short' ∧ suffix = suffix' := by
  have hsplit : some (short.toList, suffix.toList) = some (short'.toList, suffix'.toList) := by
    rw [← Text.splitFirst?_append hs, ← Text.splitFirst?_append hs', ← toList_abbreviated,
      ← toList_abbreviated, h]
  obtain ⟨hshort, hsuffix⟩ := Prod.ext_iff.1 (Option.some.inj hsplit)
  exact ⟨String.toList_inj.1 hshort, String.toList_inj.1 hsuffix⟩

/-- A prefix abbreviates what is expanded by it if its base is not empty, no longer base fits and no smaller
short name stands for the base. -/
theorem abbreviates_append_iff (hb : t.find? short = some base) :
    t.Abbreviates (base ++ suffix) short base ↔ base ≠ "" ∧
      (∀ short' base', t.find? short' = some base' → base.utf8ByteSize < base'.utf8ByteSize →
        ¬ base'.toList <+: (base ++ suffix).toList) ∧
      ∀ short', t.find? short' = some base → ¬ Text.utf8 short' < Text.utf8 short := by
  constructor
  · intro h
    refine ⟨h.nonempty, fun short' base' hb' hlt hstart => ?_, fun short' hb' hlt => ?_⟩
    · exact absurd (h.longest short' base' hb' hstart) (Nat.not_le_of_lt hlt)
    · have hne : short' ≠ short := by
        rintro rfl
        exact List.lt_irrefl _ hlt
      exact List.lt_asymm hlt (h.least short' hb' hne)
  · rintro ⟨hne, hlonger, hsmaller⟩
    refine ⟨hb, hne, prefix_append base suffix, fun short' base' hb' hstart => ?_,
      fun short' hb' hshort => ?_⟩
    · by_contra hlt
      exact hlonger short' base' hb' (Nat.lt_of_not_le hlt) hstart
    · have hle := hsmaller short' hb'
      rw [Text.utf8_lt_utf8_iff] at hle ⊢
      exact lt_of_le_of_ne (not_lt.1 hle) hshort.symm

/-- A form that comes out of abbreviating names the prefix that was used. -/
theorem abbreviates_of_abbreviate_eq
    (ht : ∀ short base, t.find? short = some base → ':' ∉ short.toList)
    (hb : t.find? short = some base)
    (h : t.abbreviate (base ++ suffix) = abbreviated short suffix) :
    t.Abbreviates (base ++ suffix) short base := by
  cases hbest : best? (base ++ suffix) t.entries with
  | none =>
    -- then nothing was taken away, so the base is the short name with its colon, and fits
    rw [abbreviate, hbest] at h
    have hbase : base = short ++ ":" := (String.append_left_inj suffix).1 h
    have hne : base ≠ "" := by
      rw [hbase, ← String.toList_inj.ne, String.toList_append]
      simp
    obtain ⟨m, hm⟩ := exists_best?_of_start hb hne (prefix_append base suffix)
    cases hbest.symm.trans hm
  | some m =>
    obtain ⟨short', base'⟩ := m
    have habb : t.Abbreviates (base ++ suffix) short' base' := abbreviates_of_best? hbest
    obtain ⟨suffix', hb', -, heq⟩ := eq_of_best? hbest
    obtain ⟨rfl, -⟩ := abbreviated_inj (ht _ _ hb) (ht _ _ hb') (h.symm.trans heq)
    obtain rfl := Option.some.inj (hb.symm.trans hb')
    exact habb

/-- Where no short name has a colon, what a registered short name and a suffix are expanded to is abbreviated to
the same short name and suffix just when the base is not empty, no longer base is the start of it, and no smaller
short name stands for the base. So it always is if no base is empty or the start of another. -/
theorem abbreviate_expanded_iff (t : Prefixes)
    (ht : ∀ short base, t.find? short = some base → ':' ∉ short.toList) :
    (∀ short base suffix, t.find? short = some base →
      expand t (abbreviated short suffix) = .ok (base ++ suffix) ∧
      (t.abbreviate (base ++ suffix) = abbreviated short suffix ↔ base ≠ "" ∧
        (∀ short' base', t.find? short' = some base' → base.utf8ByteSize < base'.utf8ByteSize →
          ¬ base'.toList <+: (base ++ suffix).toList) ∧
        ∀ short', t.find? short' = some base → ¬ Text.utf8 short' < Text.utf8 short)) ∧
    ((∀ short base, t.find? short = some base → base ≠ "") →
      (∀ short base short' base', t.find? short = some base → t.find? short' = some base' →
        short ≠ short' → ¬ base.toList <+: base'.toList) →
      ∀ short base suffix, t.find? short = some base →
        (expand t (abbreviated short suffix)).map t.abbreviate = .ok (abbreviated short suffix)) := by
  have hiff : ∀ {short base} suffix, t.find? short = some base →
      (t.abbreviate (base ++ suffix) = abbreviated short suffix ↔
        t.Abbreviates (base ++ suffix) short base) := fun _ hb =>
    ⟨abbreviates_of_abbreviate_eq ht hb, fun h => h.abbreviate_eq⟩
  refine ⟨fun short base suffix hb => ⟨expand_abbreviated (ht short base hb) hb suffix, ?_⟩, ?_⟩
  · rw [hiff suffix hb, abbreviates_append_iff hb]
  · intro hne hapart short base suffix hb
    have h : t.Apart := ⟨hne, ht, fun short base short' base' hb hb' hpre => by
      by_contra hshort
      exact hapart short base short' base' hb hb' hshort hpre⟩
    rw [expand_abbreviated (ht short base hb) hb suffix]
    exact congrArg Except.ok (h.abbreviate_append hb suffix)

/-- A table of bases that are no starts of one another. -/
def sideBySide : Prefixes := .ofList [("", "http://ü/x"), ("b", "http://ü/y")]

theorem abbreviate_expanded_iff_overlapping :
    (∀ short base, overlapping.find? short = some base → ':' ∉ short.toList) ∧
      overlapping.find? "a" = some "http://ü/x:" ∧ overlapping.find? "b" = some "http://ü/x:" ∧
      expand overlapping "a:y:ß" = .ok "http://ü/x:y:ß" ∧
      overlapping.abbreviate "http://ü/x:y:ß" = "a:y:ß" ∧
      expand overlapping "b:y:ß" = .ok "http://ü/x:y:ß" ∧
      overlapping.abbreviate "http://ü/x:y:ß" ≠ "b:y:ß" ∧
      (∀ short base, sideBySide.find? short = some base → ':' ∉ short.toList) ∧
      (∀ short base, sideBySide.find? short = some base → base ≠ "") ∧
      (∀ short base short' base', sideBySide.find? short = some base →
        sideBySide.find? short' = some base' → short ≠ short' → ¬ base.toList <+: base'.toList) ∧
      sideBySide.find? "b" = some "http://ü/y" ∧
      (expand sideBySide "b::").map sideBySide.abbreviate = .ok "b::" := by
  have hcolon : ∀ short base, overlapping.find? short = some base → ':' ∉ short.toList := by
    simp only [Table.find?_eq_some_iff, ← Prod.forall']
    decide
  have ha : overlapping.find? "a" = some "http://ü/x:" := by decide
  have hb : overlapping.find? "b" = some "http://ü/x:" := by decide
  obtain ⟨hexpand, hback⟩ := (abbreviate_expanded_iff overlapping hcolon).1 "a" _ "y:ß" ha
  obtain ⟨hexpand', hback'⟩ := (abbreviate_expanded_iff overlapping hcolon).1 "b" _ "y:ß" hb
  have hlongest : ∀ short base, overlapping.find? short = some base →
      "http://ü/x:".utf8ByteSize < base.utf8ByteSize →
      ¬ base.toList <+: ("http://ü/x:" ++ "y:ß").toList := by
    simp only [Table.find?_eq_some_iff, ← Prod.forall']
    decide
  have hleast : ∀ short, overlapping.find? short = some "http://ü/x:" →
      ¬ Text.utf8 short < Text.utf8 "a" := by
    have hnames : ∀ e ∈ overlapping.entries, e.2 = "http://ü/x:" → ¬ e.1 < "a" := by decide
    intro short hshort
    rw [Text.utf8_lt_utf8_iff]
    exact hnames _ (Table.find?_eq_some_iff.1 hshort) rfl
  have hapart : sideBySide.Apart := by decide
  have hnoStart : ∀ short base short' base', sideBySide.find? short = some base →
      sideBySide.find? short' = some base' → short ≠ short' → ¬ base.toList <+: base'.toList :=
    fun _ _ _ _ hbase hbase' hne hpre => hne (hapart.no_start _ _ _ _ hbase hbase' hpre)
  have hy : sideBySide.find? "b" = some "http://ü/y" := by decide
  refine ⟨hcolon, ha, hb, hexpand, hback.2 ⟨by decide, hlongest, hleast⟩, hexpand', fun he => ?_,
    hapart.no_colon, hapart.base_ne, hnoStart, hy, ?_⟩
  · exact (hback'.1 he).2.2 "a" ha (Text.utf8_lt_utf8_iff.2 (by decide))
  · exact (abbreviate_expanded_iff sideBySide hapart.no_colon).2 hapart.base_ne hnoStart "b" _ ":" hy

end OntologySchema.Prefixes
