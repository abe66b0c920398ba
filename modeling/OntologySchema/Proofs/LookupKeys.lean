import OntologySchema.Document.Resolver
import OntologySchema.Proofs.Prefixes

/-!
# Looking up what is registered as it is written

A property or an individual is registered under its identifier as it is written, and looked up under the
identifiers that a reference to it could have been written with. If the bases of the prefixes are apart and
references are plain (`Resolver.Plain`), these are the IRI that is meant and its abbreviation, whichever of the
two is written (`Plain.mem_lookupKeys_iff`).

An entity that is always declared in one spelling (`Resolver.DeclaredOnce`) is found for this reason: a
reference to it has the identifier of the declaration among its keys and no other identifier that is declared
(`DeclaredOnce.mem_keys_iff`), and a reference to anything else does not have it (`DeclaredOnce.not_mem_keys`).
-/

namespace OntologySchema.Resolver

variable {rv : Resolver} {r r₀ u : Reference} {k key p q i iri a : String} {keys : List String}

/-! ### The keys of a reference -/

theorem mem_addKey : k ∈ addKey keys key ↔ k ∈ keys ∨ k = key ∧ k ≠ "" := by
  unfold addKey
  split
  · next h =>
    rcases (by simpa using h : key = "" ∨ key ∈ keys) with rfl | h
    · simp
    · exact ⟨.inl, fun h' => h'.elim id fun h' => h'.1 ▸ h⟩
  · next h =>
    have hne : key ≠ "" := by simp_all
    simp only [List.mem_append, List.mem_singleton]
    exact or_congr_right ⟨fun h => ⟨h, h ▸ hne⟩, And.left⟩

theorem nodup_addKey (h : keys.Nodup) : (addKey keys key).Nodup := by
  unfold addKey
  split
  · exact h
  · next hnew =>
    have hnot : key ∉ keys := by simp_all
    refine List.nodup_append.2 ⟨h, by simp, ?_⟩
    rintro k hk _ hkey rfl
    exact hnot (List.mem_singleton.1 hkey ▸ hk)

theorem mem_foldl_addKey {added : List String} :
    k ∈ added.foldl addKey keys ↔ k ∈ keys ∨ k ∈ added ∧ k ≠ "" := by
  induction added generalizing keys with
  | nil => simp
  | cons key added ih =>
    rw [List.foldl_cons, ih, mem_addKey, List.mem_cons, or_assoc, or_and_right]

theorem nodup_foldl_addKey {added : List String} (h : keys.Nodup) :
    (added.foldl addKey keys).Nodup := by
  induction added generalizing keys with
  | nil => exact h
  | cons key added ih => exact ih (nodup_addKey h)

theorem nodup_lookupKeys (rv : Resolver) (r : Reference) : (rv.lookupKeys r).Nodup :=
  nodup_foldl_addKey List.nodup_nil

/-- An absolute IRI is looked up as it is and abbreviated. -/
theorem mem_lookupKeys_iri :
    k ∈ rv.lookupKeys ⟨some iri, none⟩ ↔ (k = iri ∨ k = rv.prefixes.abbreviate iri) ∧ k ≠ "" := by
  simp [lookupKeys, mem_addKey, or_and_right]

/-- An abbreviated IRI is looked up as it is and expanded. -/
theorem mem_lookupKeys_abbreviated :
    k ∈ rv.lookupKeys ⟨none, some a⟩ ↔ (k = a ∨ rv.prefixes.expand a = .ok k) ∧ k ≠ "" := by
  have hexpand : k ∈ (rv.prefixes.expand a).toOption.toList ↔ rv.prefixes.expand a = .ok k := by
    cases rv.prefixes.expand a <;> simp [Except.toOption, eq_comm]
  simp only [lookupKeys, List.nil_append, mem_foldl_addKey, List.not_mem_nil, false_or,
    List.mem_cons, hexpand]

/-! ### Plain references -/

/-- A reference in one form, which is not relative; what it denotes does not look like an abbreviated IRI. -/
structure Plain (rv : Resolver) (r : Reference) : Prop where
  nonempty : r.present = r
  single : r.iri = none ∨ r.abbreviated = none
  absolute : ∀ iri ∈ r.iri, isRelative iri = false
  distinct : ∀ iri ∈ rv.canonical? r, ¬ rv.prefixes.LooksAbbreviated iri

instance (rv : Resolver) (r : Reference) : Decidable (rv.Plain r) :=
  decidable_of_iff (r.present = r ∧ (r.iri = none ∨ r.abbreviated = none) ∧
      (∀ iri ∈ r.iri, isRelative iri = false) ∧
      ∀ iri ∈ rv.canonical? r, ¬ rv.prefixes.LooksAbbreviated iri)
    ⟨fun ⟨h₁, h₂, h₃, h₄⟩ => ⟨h₁, h₂, h₃, h₄⟩, fun h => ⟨h.1, h.2, h.3, h.4⟩⟩

theorem canonical?_iri (h : isRelative iri = false) : rv.canonical? ⟨some iri, none⟩ = some iri := by
  simp [canonical?, Option.filter, h, Prefixes.resolve, Except.toOption]

theorem canonical?_abbreviated :
    rv.canonical? ⟨none, some a⟩ = some p ↔ rv.prefixes.expand a = .ok p := by
  cases h : rv.prefixes.expand a <;> simp [canonical?, Prefixes.resolve, h, Except.toOption]

namespace Plain

/-- A plain reference with an identifier is that, in one form or the other. -/
theorem cases (h : rv.Plain r) (hk : r.identifier? = some k) :
    (r = ⟨some k, none⟩ ∧ rv.canonical? r = some k) ∨ r = ⟨none, some k⟩ := by
  obtain ⟨iri?, abbreviated?⟩ := r
  rcases h.single with rfl | rfl
  · exact .inr (by simpa [Reference.identifier?] using hk)
  · obtain rfl : iri? = some k := by simpa [Reference.identifier?] using hk
    exact .inl ⟨rfl, canonical?_iri (h.absolute k rfl)⟩

theorem ne_empty (h : rv.Plain r) (hk : r.identifier? = some k) : k ≠ "" := by
  rintro rfl
  have hpresent := h.nonempty
  rcases h.cases hk with ⟨rfl, -⟩ | rfl <;> simp [Reference.present, nonempty?] at hpresent

/-- A plain reference is the IRI that it denotes, or what expands to this IRI. -/
theorem cases_denotes (h : rv.Plain r) (hp : rv.canonical? r = some p) :
    r = ⟨some p, none⟩ ∨ ∃ a, r = ⟨none, some a⟩ ∧ rv.prefixes.expand a = .ok p := by
  have hidentifier : ∃ k, r.identifier? = some k := by
    obtain ⟨_ | iri, _ | a⟩ := r
    · cases hp
    all_goals exact ⟨_, rfl⟩
  obtain ⟨k, hk⟩ := hidentifier
  rcases h.cases hk with ⟨rfl, hc⟩ | rfl
  · obtain rfl : k = p := Option.some.inj (hc.symm.trans hp)
    exact .inl rfl
  · exact .inr ⟨k, rfl, canonical?_abbreviated.1 hp⟩

/-- The keys of a plain reference are the IRI that it denotes and the abbreviation of this IRI, however the
reference is spelled. -/
theorem mem_lookupKeys_iff (ht : rv.prefixes.Apart) (h : rv.Plain r)
    (hp : rv.canonical? r = some p) :
    k ∈ rv.lookupKeys r ↔ (k = p ∨ rv.prefixes.expand k = .ok p) ∧ k ≠ "" := by
  rcases h.cases_denotes hp with rfl | ⟨a, rfl, ha⟩
  · rw [mem_lookupKeys_iri]
    refine and_congr_left fun _ => ⟨?_, ?_⟩
    · rintro (rfl | rfl)
      · exact .inl rfl
      · exact ht.expand_abbreviate p
    · rintro (rfl | hk)
      · exact .inl rfl
      · exact .inr (ht.abbreviate_of_expand hk).symm
  · rw [mem_lookupKeys_abbreviated]
    refine and_congr_left fun _ => ⟨?_, ?_⟩
    · rintro (rfl | hk)
      · exact .inr ha
      · exact .inl (Except.ok.inj (hk.symm.trans ha))
    · rintro (rfl | hk)
      · exact .inr ha
      · exact .inl ((ht.abbreviate_of_expand hk).symm.trans (ht.abbreviate_of_expand ha))

end Plain

/-! ### What is declared in one spelling -/

/-- Of the references that declare entities, those that declare the one with IRI `p` are all the same, `r₀`,
which is `i` as it is written. All are plain, and none has `p` itself where an abbreviated IRI belongs. -/
structure DeclaredOnce (rv : Resolver) (refs : List Reference) (r₀ : Reference) (p i : String) : Prop where
  declared : r₀ ∈ refs
  denotes : rv.canonical? r₀ = some p
  identifier : r₀.identifier? = some i
  one_spelling : ∀ u ∈ refs, rv.canonical? u = some p → u = r₀
  plain : ∀ u ∈ refs, rv.Plain u
  not_abbreviated : ∀ u ∈ refs, u.abbreviated ≠ some p

instance (rv : Resolver) (refs : List Reference) (r₀ : Reference) (p i : String) :
    Decidable (rv.DeclaredOnce refs r₀ p i) :=
  decidable_of_iff (r₀ ∈ refs ∧ rv.canonical? r₀ = some p ∧ r₀.identifier? = some i ∧
      (∀ u ∈ refs, rv.canonical? u = some p → u = r₀) ∧ (∀ u ∈ refs, rv.Plain u) ∧
      ∀ u ∈ refs, u.abbreviated ≠ some p)
    ⟨fun ⟨h₁, h₂, h₃, h₄, h₅, h₆⟩ => ⟨h₁, h₂, h₃, h₄, h₅, h₆⟩,
      fun h => ⟨h.1, h.2, h.3, h.4, h.5, h.6⟩⟩

namespace DeclaredOnce

variable {refs : List Reference}

/-- Of the identifiers that are declared, a reference to the entity is looked up under one. -/
theorem mem_keys_iff (h : rv.DeclaredOnce refs r₀ p i) (ht : rv.prefixes.Apart) (hr : rv.Plain r)
    (hp : rv.canonical? r = some p) :
    (k ∈ rv.lookupKeys r ∧ ∃ u ∈ refs, u.identifier? = some k) ↔ k = i := by
  rw [hr.mem_lookupKeys_iff ht hp]
  constructor
  · rintro ⟨⟨hkey, -⟩, u, hu, hk⟩
    -- it is enough that the reference denotes the entity, for then it is the one declaration
    suffices hdenotes : rv.canonical? u = some p by
      rw [h.one_spelling u hu hdenotes, h.identifier] at hk
      exact (Option.some.inj hk).symm
    rcases (h.plain u hu).cases hk with ⟨rfl, hc⟩ | rfl
    · rcases hkey with rfl | hexpand
      · exact hc
      · exact absurd (Prefixes.looksAbbreviated_of_expand hexpand) ((h.plain _ hu).distinct k hc)
    · rcases hkey with rfl | hexpand
      · exact absurd rfl (h.not_abbreviated _ hu)
      · exact canonical?_abbreviated.2 hexpand
  · rintro rfl
    refine ⟨⟨?_, (h.plain r₀ h.declared).ne_empty h.identifier⟩, r₀, h.declared, h.identifier⟩
    rcases (h.plain r₀ h.declared).cases h.identifier with ⟨rfl, hc⟩ | rfl
    · exact .inl (Option.some.inj (hc.symm.trans h.denotes))
    · exact .inr (canonical?_abbreviated.1 h.denotes)

/-- A reference to anything else is not looked up under the identifier of the declaration. -/
theorem not_mem_keys (h : rv.DeclaredOnce refs r₀ p i) (ht : rv.prefixes.Apart) (hr : rv.Plain r)
    (hq : rv.canonical? r = some q) (hne : q ≠ p) : i ∉ rv.lookupKeys r := by
  rw [hr.mem_lookupKeys_iff ht hq]
  rintro ⟨hkey, -⟩
  rcases (h.plain r₀ h.declared).cases h.identifier with ⟨rfl, hc⟩ | rfl
  · obtain rfl : i = p := Option.some.inj (hc.symm.trans h.denotes)
    rcases hkey with rfl | hexpand
    · exact hne rfl
    · exact (h.plain _ h.declared).distinct i hc (Prefixes.looksAbbreviated_of_expand hexpand)
  · have hexpand := canonical?_abbreviated.1 h.denotes
    rcases hkey with rfl | hexpand'
    · exact hr.distinct i hq (Prefixes.looksAbbreviated_of_expand hexpand)
    · exact hne (Except.ok.inj (hexpand'.symm.trans hexpand))

end DeclaredOnce

end OntologySchema.Resolver
