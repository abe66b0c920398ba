import Mathlib.Data.List.Find
import OntologySchema.Proofs.LookupKeys
import OntologySchema.Proofs.Table

/-!
# Writing relative references out

A relative reference is written out by putting the base of the document in front of it. The keys under which
the entity is looked up are then others altogether, so two runs agree only if the identifiers under which it is
registered change with them. This is so if what is written out shares no key with any other reference, neither
before nor after (`Resolver.Separate`): then tables whose entries correspond (`Rekeyed`) give corresponding
answers, to a reference in the one and to what it is written out to in the other (`Rekeyed.findSome?_eq`), and
they go on to correspond when entries are put in (`Rekeyed.insertNew?`) or changed (`Rekeyed.modifyFirst`).
-/

namespace OntologySchema

namespace Reference

/-- The reference with the base in front of its IRI, if that is relative. -/
def absolute (base : String) (r : Reference) : Reference :=
  { r with iri := r.iri.map fun iri => if Resolver.isRelative iri then joinFragment base iri else iri }

/-- The reference with the base in front of its IRI, if it is one of those to be written out. -/
def writeOut (base : String) (out : Reference → Bool) (r : Reference) : Reference :=
  if out r then r.absolute base else r

end Reference

/-- No reference that is written out has a key in common with another reference, neither as it was nor as it is
then. -/
def Resolver.Separate (rv : Resolver) (base : String) (out : Reference → Bool) (refs : List Reference) :
    Prop :=
  ∀ r ∈ refs, ∀ u ∈ refs, r.writeOut base out ≠ r → u ≠ r →
    (rv.lookupKeys r).Disjoint (rv.lookupKeys u) ∧
      (rv.lookupKeys (r.writeOut base out)).Disjoint (rv.lookupKeys (u.writeOut base out))

instance decidableDisjoint (xs ys : List String) : Decidable (xs.Disjoint ys) :=
  decidable_of_iff (∀ x ∈ xs, x ∉ ys) ⟨fun h _ hx hy => h _ hx hy, fun h _ hx hy => h hx hy⟩

instance (rv : Resolver) (base : String) (out : Reference → Bool) (refs : List Reference) :
    Decidable (rv.Separate base out refs) := by
  unfold Resolver.Separate
  infer_instance

variable {rv : Resolver} {base iri k k' : String} {out : Reference → Bool} {r u : Reference}

/-! ### References -/

/-- A relative IRI is put behind the base, or behind the base without its number sign. -/
theorem exists_joinFragment (base fragment : String) : ∃ stem,
    joinFragment base fragment = stem ++ fragment ∧ (base = stem ∨ base = stem ++ "#") := by
  unfold joinFragment
  split
  · next stem hstem =>
    refine ⟨_, rfl, .inr ?_⟩
    rw [← String.toList_inj, ← List.reverse_inj, hstem]
    simp
  · exact ⟨base, rfl, .inl rfl⟩

theorem isRelative_iff : Resolver.isRelative iri = true ↔ ∃ cs, iri.toList = '#' :: cs := by
  simp [Resolver.isRelative, List.head?_eq_some_iff]

/-- What is joined is not empty. -/
theorem joinFragment_ne_empty (h : Resolver.isRelative iri = true) : joinFragment base iri ≠ "" := by
  obtain ⟨stem, hstem, -⟩ := exists_joinFragment base iri
  obtain ⟨cs, hcs⟩ := isRelative_iff.1 h
  intro hempty
  have hlists := congrArg String.toList (hstem.symm.trans hempty)
  simp [hcs] at hlists

/-- Behind a base that is not relative there is no relative IRI. -/
theorem isRelative_joinFragment (hne : base ≠ "") (h : Resolver.isRelative base = false)
    (iri : String) : Resolver.isRelative (joinFragment base iri) = false := by
  obtain ⟨stem, hstem, hbase⟩ := exists_joinFragment base iri
  have hstemNe : stem ≠ "" := by
    rintro rfl
    rcases hbase with rfl | rfl
    · exact hne rfl
    · cases h
  obtain ⟨c, cs, hcs⟩ := List.exists_cons_of_ne_nil (mt String.toList_eq_nil_iff.1 hstemNe)
  have hc : c ≠ '#' := by
    rcases hbase with rfl | rfl <;> simpa [Resolver.isRelative, hcs] using h
  simpa [hstem, Resolver.isRelative, hcs] using hc

/-- The base makes no difference to the last segment. -/
theorem lastSegment_joinFragment (h : Resolver.isRelative iri = true) :
    Naming.lastSegment (joinFragment base iri) = Naming.lastSegment iri := by
  obtain ⟨stem, hstem, -⟩ := exists_joinFragment base iri
  obtain ⟨cs, hcs⟩ := isRelative_iff.1 h
  -- seen from the end, both stop at the number sign of the relative IRI
  have hstop : ∀ front : List Char, (cs.reverse ++ '#' :: front).takeWhile (fun c => c ≠ '/' && c ≠ '#') =
      cs.reverse.takeWhile (fun c => c ≠ '/' && c ≠ '#') := by
    intro front
    induction cs.reverse with
    | nil => rfl
    | cons c cs ih => rw [List.cons_append, List.takeWhile_cons, List.takeWhile_cons, ih]
  unfold Naming.lastSegment
  rw [hstem, String.toList_append, hcs, List.reverse_append, List.reverse_cons, List.append_assoc]
  rw [List.singleton_append, hstop, hstop []]

namespace Reference

theorem present_present (r : Reference) : r.present.present = r.present := by
  simp [present, nonempty?, Option.filter_filter]

theorem present_absolute (base : String) (r : Reference) :
    (r.absolute base).present = r.present.absolute base := by
  obtain ⟨iri?, abbreviated?⟩ := r
  cases iri? with
  | none => rfl
  | some iri =>
    by_cases hrel : Resolver.isRelative iri = true
    · have hne : iri ≠ "" := by
        rintro rfl
        cases hrel
      simp [present, absolute, nonempty?, Option.filter_some, hrel, hne, joinFragment_ne_empty hrel]
    · by_cases hne : iri = ""
      · subst hne
        rfl
      · simp [present, absolute, nonempty?, Option.filter_some, hrel, hne]

theorem present_writeOut (h : r.present = r) : (r.writeOut base out).present = r.writeOut base out := by
  unfold writeOut
  split
  · rw [present_absolute, h]
  · exact h

/-- A reference has an identifier just when it has one after it is written out. -/
theorem identifier?_writeOut (base : String) (out : Reference → Bool) (r : Reference) :
    (r.identifier? = none ∧ (r.writeOut base out).identifier? = none) ∨
      ∃ k k', r.identifier? = some k ∧ (r.writeOut base out).identifier? = some k' := by
  obtain ⟨iri?, abbreviated?⟩ := r
  unfold writeOut absolute identifier?
  cases iri? <;> cases abbreviated? <;> split <;> simp

/-- What is written out has an identifier before and after. -/
theorem exists_identifiers_of_changed (h : r.writeOut base out ≠ r) :
    ∃ k k', r.identifier? = some k ∧ (r.writeOut base out).identifier? = some k' := by
  refine (identifier?_writeOut base out r).resolve_left fun hnone => h ?_
  obtain ⟨iri?, abbreviated?⟩ := r
  cases iri? with
  | none =>
    unfold writeOut absolute
    split <;> rfl
  | some iri => cases hnone.1

/-- The name that is derived from a reference does not depend on the base. -/
theorem derivedName_writeOut (base : String) (out : Reference → Bool) (r : Reference) :
    (r.writeOut base out).derivedName = r.derivedName := by
  obtain ⟨iri?, abbreviated?⟩ := r
  unfold writeOut
  split
  · cases abbreviated? with
    | some abbreviated => rfl
    | none =>
      cases iri? with
      | none => rfl
      | some iri =>
        by_cases hrel : Resolver.isRelative iri = true
        · simp [absolute, derivedName, hrel, lastSegment_joinFragment hrel]
        · simp [absolute, derivedName, hrel]
  · rfl

/-- What is written out denotes what it did. -/
theorem canonical?_writeOut (hbase : rv.base? = some base) (hne : base ≠ "")
    (h : Resolver.isRelative base = false) (out : Reference → Bool) (r : Reference) :
    rv.canonical? (r.writeOut base out) = rv.canonical? r := by
  obtain ⟨iri?, abbreviated?⟩ := r
  unfold writeOut
  split
  · cases iri? with
    | none => rfl
    | some iri =>
      by_cases hrel : Resolver.isRelative iri = true
      · simp [absolute, Resolver.canonical?, hbase, hrel, Option.filter_some,
          isRelative_joinFragment hne h, Prefixes.resolve, Except.toOption]
      · simp [absolute, hrel]
  · rfl

/-- The identifier of a reference is one of its keys. -/
theorem identifier_mem_lookupKeys (h : r.present = r) (hk : r.identifier? = some k) :
    k ∈ rv.lookupKeys r := by
  obtain ⟨iri?, abbreviated?⟩ := r
  have hne : k ≠ "" := by
    rintro rfl
    cases iri? <;> cases abbreviated? <;>
      simp_all [present, nonempty?, identifier?, Option.filter_some]
  unfold Resolver.lookupKeys
  rw [Resolver.mem_foldl_addKey]
  refine .inr ⟨?_, hne⟩
  cases iri? <;> cases abbreviated? <;> simp_all [identifier?]

theorem identifier_mem_lookupKeys_writeOut (h : r.present = r)
    (hk : (r.writeOut base out).identifier? = some k) : k ∈ rv.lookupKeys (r.writeOut base out) :=
  identifier_mem_lookupKeys (present_writeOut h) hk

end Reference

section Separate

variable {refs : List Reference} {v : Reference} {j j' : String}

/-- References have the same identifier after they are written out just when they had it before. -/
theorem Resolver.Separate.identifier_eq_iff (hs : rv.Separate base out refs)
    (hrefs : ∀ u ∈ refs, u.present = u) (hu : u ∈ refs) (hv : v ∈ refs)
    (hk : u.identifier? = some k) (hk' : (u.writeOut base out).identifier? = some k')
    (hj : v.identifier? = some j) (hj' : (v.writeOut base out).identifier? = some j') :
    k' = j' ↔ k = j := by
  have hmem : k ∈ rv.lookupKeys u := Reference.identifier_mem_lookupKeys (hrefs u hu) hk
  have hmem' : k' ∈ rv.lookupKeys (u.writeOut base out) :=
    Reference.identifier_mem_lookupKeys_writeOut (hrefs u hu) hk'
  have hmemv : j ∈ rv.lookupKeys v := Reference.identifier_mem_lookupKeys (hrefs v hv) hj
  have hmemv' : j' ∈ rv.lookupKeys (v.writeOut base out) :=
    Reference.identifier_mem_lookupKeys_writeOut (hrefs v hv) hj'
  by_cases huv : u = v
  · subst huv
    rw [hk] at hj
    rw [hk'] at hj'
    cases hj
    cases hj'
    exact ⟨fun _ => rfl, fun _ => rfl⟩
  by_cases hchangedu : u.writeOut base out = u
  · by_cases hchangedv : v.writeOut base out = v
    · rw [hchangedu, hk] at hk'
      rw [hchangedv, hj] at hj'
      cases hk'
      cases hj'
      exact Iff.rfl
    · obtain ⟨hbefore, hafter⟩ := hs v hv u hu hchangedv huv
      exact ⟨fun h => (hafter hmemv' (h ▸ hmem')).elim, fun h => (hbefore hmemv (h ▸ hmem)).elim⟩
  · obtain ⟨hbefore, hafter⟩ := hs u hu v hv hchangedu (Ne.symm huv)
    exact ⟨fun h => (hafter hmem' (h ▸ hmemv')).elim, fun h => (hbefore hmem (h ▸ hmemv)).elim⟩

/-- What has a key of a reference that is not written out for its identifier is not written out either. -/
theorem Resolver.Separate.writeOut_eq_of_key (hs : rv.Separate base out refs)
    (hrefs : ∀ u ∈ refs, u.present = u) (hr : r ∈ refs) (hchanged : r.writeOut base out = r)
    (hu : u ∈ refs) (hk : k ∈ rv.lookupKeys r)
    (hident : u.identifier? = some k ∨ (u.writeOut base out).identifier? = some k) :
    u.writeOut base out = u := by
  by_contra hne
  have hru : r ≠ u := by
    rintro rfl
    exact hne hchanged
  obtain ⟨hbefore, hafter⟩ := hs u hu r hr hne hru
  rw [hchanged] at hafter
  rcases hident with hident | hident
  · exact hbefore (Reference.identifier_mem_lookupKeys (hrefs u hu) hident) hk
  · exact hafter (Reference.identifier_mem_lookupKeys_writeOut (hrefs u hu) hident) hk

end Separate

/-! ### Tables -/

namespace Table

variable {α β : Type} {t t' : Table α} {refs : List Reference} {view : α → β}

/-- One table has the entries of the other at the identifiers of the references as they are written out, as far
as the entries can be viewed, and neither has any other identifiers. -/
structure Rekeyed (base : String) (out : Reference → Bool) (refs : List Reference) (view : α → β)
    (t t' : Table α) : Prop where
  keys : ∀ k, t.contains k = true → ∃ u ∈ refs, u.identifier? = some k
  keys' : ∀ k, t'.contains k = true → ∃ u ∈ refs, (u.writeOut base out).identifier? = some k
  entries : ∀ u ∈ refs, ∀ k k', u.identifier? = some k →
    (u.writeOut base out).identifier? = some k' → (t'.find? k').map view = (t.find? k).map view

theorem rekeyed_empty : Rekeyed base out refs view (empty : Table α) empty where
  keys := fun _ h => by cases h
  keys' := fun _ h => by cases h
  entries := fun _ _ _ _ _ _ => rfl

/-- Where a test holds for one member of a list at most, that is the first. -/
theorem find?_eq_of_only {l : List String} {p : String → Bool} (hk : k ∈ l)
    (h : ∀ j ∈ l, p j = true → j = k) : l.find? p = if p k then some k else none := by
  cases hfind : l.find? p with
  | none => rw [if_neg (List.find?_eq_none.1 hfind k hk)]
  | some j =>
    have hj : p j = true := List.find?_some hfind
    obtain rfl := h j (List.mem_of_find?_eq_some hfind) hj
    rw [if_pos hj]

theorem view_map {f : α → α} (hf : ∀ a a', view a' = view a → view (f a') = view (f a))
    {a? a'? : Option α} (h : a'?.map view = a?.map view) :
    (a'?.map f).map view = (a?.map f).map view := by
  cases a? with
  | none => rw [Option.map_eq_none_iff.1 h]
  | some a =>
    obtain ⟨a', rfl, ha⟩ := Option.map_eq_some_iff.1 h
    exact congrArg some (hf a a' ha)

namespace Rekeyed

theorem contains_eq (h : Rekeyed base out refs view t t') (hu : u ∈ refs)
    (hk : u.identifier? = some k) (hk' : (u.writeOut base out).identifier? = some k') :
    t'.contains k' = t.contains k := by
  have hsome := congrArg Option.isSome (h.entries u hu k k' hk hk')
  rwa [Option.isSome_map, Option.isSome_map] at hsome

/-- Under the keys of a reference that is not written out, the same is registered in both tables. -/
theorem contains_eq_of_unchanged (h : Rekeyed base out refs view t t') (hs : rv.Separate base out refs)
    (hrefs : ∀ u ∈ refs, u.present = u) (hr : r ∈ refs) (hchanged : r.writeOut base out = r)
    (hk : k ∈ rv.lookupKeys r) : t'.contains k = t.contains k := by
  rw [Bool.eq_iff_iff]
  constructor
  · intro hin
    obtain ⟨u, hu, hident⟩ := h.keys' k hin
    have hident' := hs.writeOut_eq_of_key hrefs hr hchanged hu hk (.inr hident) ▸ hident
    exact (h.contains_eq hu hident' hident) ▸ hin
  · intro hin
    obtain ⟨u, hu, hident⟩ := h.keys k hin
    have hident' : (u.writeOut base out).identifier? = some k := by
      rw [hs.writeOut_eq_of_key hrefs hr hchanged hu hk (.inl hident), hident]
    exact (h.contains_eq hu hident hident').symm ▸ hin

/-- A reference that is written out is registered under its own identifier, before and after, or not at all. -/
theorem find?_of_changed (h : Rekeyed base out refs view t t') (hs : rv.Separate base out refs)
    (hrefs : ∀ u ∈ refs, u.present = u) (hr : r ∈ refs) (hchanged : r.writeOut base out ≠ r)
    (hk : r.identifier? = some k) (hk' : (r.writeOut base out).identifier? = some k') :
    (rv.lookupKeys r).find? t.contains = (if t.contains k then some k else none) ∧
      (rv.lookupKeys (r.writeOut base out)).find? t'.contains =
        if t.contains k then some k' else none := by
  have honly : ∀ j ∈ rv.lookupKeys r, t.contains j = true → j = k := by
    intro j hj hin
    obtain ⟨u, hu, hident⟩ := h.keys j hin
    by_cases hur : u = r
    · exact Option.some.inj (hident.symm.trans (hur ▸ hk))
    · exact ((hs r hr u hu hchanged hur).1 hj
        (Reference.identifier_mem_lookupKeys (hrefs u hu) hident)).elim
  have honly' : ∀ j ∈ rv.lookupKeys (r.writeOut base out), t'.contains j = true → j = k' := by
    intro j hj hin
    obtain ⟨u, hu, hident⟩ := h.keys' j hin
    by_cases hur : u = r
    · exact Option.some.inj (hident.symm.trans (hur ▸ hk'))
    · exact ((hs r hr u hu hchanged hur).2 hj
        (Reference.identifier_mem_lookupKeys_writeOut (hrefs u hu) hident)).elim
  have hmem : k ∈ rv.lookupKeys r := Reference.identifier_mem_lookupKeys (hrefs r hr) hk
  have hmem' : k' ∈ rv.lookupKeys (r.writeOut base out) :=
    Reference.identifier_mem_lookupKeys_writeOut (hrefs r hr) hk'
  rw [find?_eq_of_only hmem honly, find?_eq_of_only hmem' honly', h.contains_eq hr hk hk']
  exact ⟨rfl, rfl⟩

/-- A reference and what it is written out to are registered under the identifiers of one reference, or neither
is registered. -/
theorem first (h : Rekeyed base out refs view t t') (hs : rv.Separate base out refs)
    (hrefs : ∀ u ∈ refs, u.present = u) (hr : r ∈ refs) :
    ((rv.lookupKeys r).find? t.contains = none ∧
        (rv.lookupKeys (r.writeOut base out)).find? t'.contains = none) ∨
      ∃ u ∈ refs, ∃ k k', u.identifier? = some k ∧ (u.writeOut base out).identifier? = some k' ∧
        (rv.lookupKeys r).find? t.contains = some k ∧
        (rv.lookupKeys (r.writeOut base out)).find? t'.contains = some k' := by
  by_cases hchanged : r.writeOut base out = r
  · rw [hchanged,
      List.find?_congr fun k hk => h.contains_eq_of_unchanged hs hrefs hr hchanged hk]
    cases hfind : (rv.lookupKeys r).find? t.contains with
    | none => exact .inl ⟨rfl, rfl⟩
    | some k =>
      obtain ⟨u, hu, hident⟩ := h.keys k (List.find?_some hfind)
      refine .inr ⟨u, hu, k, k, hident, ?_, rfl, rfl⟩
      rw [hs.writeOut_eq_of_key hrefs hr hchanged hu (List.mem_of_find?_eq_some hfind) (.inl hident),
        hident]
  · obtain ⟨k, k', hk, hk'⟩ := Reference.exists_identifiers_of_changed hchanged
    obtain ⟨hfind, hfind'⟩ := h.find?_of_changed hs hrefs hr hchanged hk hk'
    rw [hfind, hfind']
    by_cases hin : t.contains k = true
    · rw [if_pos hin, if_pos hin]
      exact .inr ⟨r, hr, k, k', hk, hk', rfl, rfl⟩
    · rw [if_neg hin, if_neg hin]
      exact .inl ⟨rfl, rfl⟩

/-- What is looked up in the one table and in the other can be viewed as the same. -/
theorem findSome?_eq (h : Rekeyed base out refs view t t') (hs : rv.Separate base out refs)
    (hrefs : ∀ u ∈ refs, u.present = u) (hr : r ∈ refs) :
    ((rv.lookupKeys (r.writeOut base out)).findSome? t'.find?).map view =
      ((rv.lookupKeys r).findSome? t.find?).map view := by
  rw [findSome?_find?, findSome?_find?]
  rcases h.first hs hrefs hr with ⟨hnone, hnone'⟩ | ⟨u, hu, k, k', hk, hk', hfind, hfind'⟩
  · rw [hnone, hnone']
    rfl
  · rw [hfind, hfind']
    exact h.entries u hu k k' hk hk'

/-- Tables that correspond do so after the same change to what is looked up. -/
theorem modifyFirst (h : Rekeyed base out refs view t t') (hs : rv.Separate base out refs)
    (hrefs : ∀ u ∈ refs, u.present = u) (hr : r ∈ refs) {f : α → α}
    (hf : ∀ a a', view a' = view a → view (f a') = view (f a)) :
    Rekeyed base out refs view (t.modifyFirst (rv.lookupKeys r) f)
      (t'.modifyFirst (rv.lookupKeys (r.writeOut base out)) f) where
  keys := fun k hk => h.keys k (by rwa [contains_modifyFirst] at hk)
  keys' := fun k hk => h.keys' k (by rwa [contains_modifyFirst] at hk)
  entries := fun v hv j j' hj hj' => by
    have hentry := h.entries v hv j j' hj hj'
    unfold Table.modifyFirst
    rcases h.first hs hrefs hr with ⟨hnone, hnone'⟩ | ⟨u, hu, k, k', hk, hk', hfind, hfind'⟩
    · rw [hnone, hnone']
      exact hentry
    · rw [hfind, hfind']
      dsimp only
      rw [find?_modify, find?_modify]
      by_cases hjk : j = k
      · rw [if_pos hjk, if_pos ((hs.identifier_eq_iff hrefs hv hu hj hj' hk hk').2 hjk)]
        exact view_map hf hentry
      · rw [if_neg hjk, if_neg (mt (hs.identifier_eq_iff hrefs hv hu hj hj' hk hk').1 hjk)]
        exact hentry

/-- Tables that correspond do so after an entry is put in under the identifier of a reference. -/
theorem insertNew? (h : Rekeyed base out refs view t t') (hs : rv.Separate base out refs)
    (hrefs : ∀ u ∈ refs, u.present = u) (hu : u ∈ refs) {entry entry' : String → α}
    (hview : ∀ k k', view (entry' k') = view (entry k)) :
    Rekeyed base out refs view (t.insertNew? (u.identifier?.map fun k => (k, entry k)))
      (t'.insertNew? ((u.writeOut base out).identifier?.map fun k => (k, entry' k))) where
  keys := fun k hk => by
    rcases (contains_insertNew? _ _ _).1 hk with hk | hk
    · exact h.keys k hk
    · exact ⟨u, hu, by simpa [Function.comp_def] using hk⟩
  keys' := fun k hk => by
    rcases (contains_insertNew? _ _ _).1 hk with hk | hk
    · exact h.keys' k hk
    · exact ⟨u, hu, by simpa [Function.comp_def] using hk⟩
  entries := fun v hv j j' hj hj' => by
    have hentry := h.entries v hv j j' hj hj'
    rw [find?_insertNew?, find?_insertNew?, Option.map_or, Option.map_or, hentry]
    congr 1
    rcases Reference.identifier?_writeOut base out u with ⟨hnone, hnone'⟩ | ⟨k, k', hk, hk'⟩
    · rw [hnone, hnone']
      rfl
    · rw [hk, hk']
      by_cases hkj : k = j
      · have hkj' := (hs.identifier_eq_iff hrefs hu hv hk hk' hj hj').2 hkj
        simp [Option.filter_some, hkj, hkj', hview j j']
      · have hkj' := mt (hs.identifier_eq_iff hrefs hu hv hk hk' hj hj').1 hkj
        simp [Option.filter_some, hkj, hkj']

/-- Tables that correspond do so after entries are put in for one reference after the other. -/
theorem foldl_insertNew? (hs : rv.Separate base out refs) (hrefs : ∀ u ∈ refs, u.present = u)
    (make : Reference → String → α)
    (hmake : ∀ {r r' : Reference}, r'.present = r.present.writeOut base out →
      ∀ k k', view (make r' k') = view (make r k))
    {rs rs' : List Reference}
    (hrs : List.Forall₂ (fun r r' => r.present ∈ refs ∧ r'.present = r.present.writeOut base out) rs rs')
    (h : Rekeyed base out refs view t t') :
    Rekeyed base out refs view
      (rs.foldl (fun t r => t.insertNew? (r.present.identifier?.map fun k => (k, make r k))) t)
      (rs'.foldl (fun t r => t.insertNew? (r.present.identifier?.map fun k => (k, make r k))) t') := by
  induction hrs generalizing t t' with
  | nil => exact h
  | cons hr _ ih =>
    rw [List.foldl_cons, List.foldl_cons]
    refine ih ?_
    rw [hr.2]
    exact h.insertNew? hs hrefs hr.1 (hmake hr.2)

end Rekeyed

end Table

end OntologySchema
