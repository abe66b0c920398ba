/-!
# Ordered tables

A table maps strings to values and lists its entries in the order of their keys, compared character
by character. It is a sorted list with a proof that it is sorted, so two tables with the same
entries are equal, and the order in which entries are listed is part of the value.

The lemmas say what each operation does to `find?`, and that a table is determined by `find?`.
-/

namespace OntologySchema

/-- Entries with strictly increasing keys. -/
structure Table (α : Type) where
  entries : List (String × α)
  ordered : entries.Pairwise (fun a b => a.1 < b.1)
  deriving DecidableEq, Repr

namespace Table

variable {α : Type}

/-- Put `v` at `k` in a list of entries, in front of the first larger key. -/
def place (k : String) (v : α) : List (String × α) → List (String × α)
  | [] => [(k, v)]
  | e :: rest =>
    if k < e.1 then (k, v) :: e :: rest
    else if k = e.1 then (k, v) :: rest
    else e :: place k v rest

theorem mem_place {k : String} {v : α} {e : String × α} :
    ∀ {es : List (String × α)}, e ∈ place k v es → e = (k, v) ∨ e ∈ es
  | [], h => by simpa [place] using h
  | e' :: rest, h => by
    unfold place at h
    split at h
    · simpa using h
    · split at h
      · rcases List.mem_cons.1 h with h | h
        · exact .inl h
        · exact .inr (List.mem_cons_of_mem _ h)
      · rcases List.mem_cons.1 h with h | h
        · exact .inr (h ▸ List.mem_cons_self)
        · exact (mem_place h).imp id (List.mem_cons_of_mem _)

theorem ordered_place (k : String) (v : α) :
    ∀ {es : List (String × α)}, es.Pairwise (fun a b => a.1 < b.1) →
      (place k v es).Pairwise (fun a b => a.1 < b.1)
  | [], _ => by simp [place]
  | e :: rest, h => by
    have hc := List.pairwise_cons.1 h
    unfold place
    split
    · next hk =>
      refine List.pairwise_cons.2 ⟨fun b hb => ?_, h⟩
      rcases List.mem_cons.1 hb with rfl | hb
      · exact hk
      · exact String.lt_trans hk (hc.1 b hb)
    · next hk =>
      split
      · next he => exact List.pairwise_cons.2 ⟨fun b hb => he ▸ hc.1 b hb, hc.2⟩
      · next he =>
        have hlt : e.1 < k := by
          rcases String.le_total k e.1 with hle | hle
          · exact absurd (String.le_antisymm hle (String.not_lt.1 hk)) he
          · exact String.not_le.1 fun h' => he (String.le_antisymm h' hle)
        refine List.pairwise_cons.2 ⟨fun b hb => ?_, ordered_place k v hc.2⟩
        rcases mem_place hb with rfl | hb
        · exact hlt
        · exact hc.1 b hb

/-- The value of the first entry at `k`. -/
def lookup (k : String) : List (String × α) → Option α
  | [] => none
  | e :: rest => if k = e.1 then some e.2 else lookup k rest

/-- The table without entries. -/
def empty : Table α := ⟨[], .nil⟩

instance : Inhabited (Table α) := ⟨empty⟩

/-- The value at a key. -/
def find? (t : Table α) (k : String) : Option α := lookup k t.entries

/-- Whether there is an entry at a key. -/
def contains (t : Table α) (k : String) : Bool := (t.find? k).isSome

/-- Put a value at a key, in place of the one that was there. -/
def insert (t : Table α) (k : String) (v : α) : Table α :=
  ⟨place k v t.entries, ordered_place k v t.ordered⟩

/-- Take the entry at a key away. -/
def erase (t : Table α) (k : String) : Table α :=
  ⟨t.entries.filter (fun e => e.1 ≠ k), t.ordered.filter _⟩

/-- Change the value at a key, if there is one. -/
def modify (t : Table α) (k : String) (f : α → α) : Table α :=
  ⟨t.entries.map (fun e => if e.1 = k then (e.1, f e.2) else e), by
    refine List.pairwise_map.2 (t.ordered.imp fun {a b} h => ?_)
    split <;> split <;> exact h⟩

/-- The table of a list of entries; of two entries with one key the later counts. -/
def ofList (es : List (String × α)) : Table α := es.foldl (fun t e => t.insert e.1 e.2) empty

/-- Number of entries. -/
def size (t : Table α) : Nat := t.entries.length

/-- Whether there is no entry. -/
def isEmpty (t : Table α) : Bool := t.entries.isEmpty

/-- The keys, in order. -/
def keys (t : Table α) : List String := t.entries.map (·.1)

/-- The values, in the order of their keys. -/
def values (t : Table α) : List α := t.entries.map (·.2)

/-! ### A table is determined by `find?` -/

@[ext] theorem ext {t u : Table α} (h : t.entries = u.entries) : t = u := by
  cases t; cases u; simp_all

@[simp] theorem find?_empty (k : String) : (empty : Table α).find? k = none := rfl

theorem mem_of_lookup {k : String} {v : α} :
    ∀ {es : List (String × α)}, lookup k es = some v → (k, v) ∈ es
  | [], h => by simp [lookup] at h
  | e :: rest, h => by
    unfold lookup at h
    split at h
    · next hk => cases h; exact hk ▸ List.mem_cons_self
    · exact List.mem_cons_of_mem _ (mem_of_lookup h)

theorem lookup_place (k : String) (v : α) (k' : String) :
    ∀ es : List (String × α), lookup k' (place k v es) = if k' = k then some v else lookup k' es
  | [] => by simp [place, lookup]
  | e :: rest => by
    unfold place
    split
    · simp [lookup]
    · split
      · next he => by_cases h : k' = k <;> simp_all [lookup]
      · next he =>
        by_cases h : k' = e.1
        · have hne : ¬ k' = k := fun h' => he (h'.symm.trans h)
          simp only [lookup, h, if_true]
          rw [if_neg (h ▸ hne)]
        · simp [lookup, h, lookup_place k v k' rest]

@[simp] theorem find?_insert (t : Table α) (k : String) (v : α) (k' : String) :
    (t.insert k v).find? k' = if k' = k then some v else t.find? k' :=
  lookup_place k v k' t.entries

theorem lookup_map (k : String) (f : α → α) (k' : String) : ∀ es : List (String × α),
    lookup k' (es.map fun e => if e.1 = k then (e.1, f e.2) else e) =
      if k' = k then (lookup k' es).map f else lookup k' es
  | [] => by simp [lookup]
  | e :: rest => by
    rw [List.map_cons, lookup, lookup, lookup_map k f k' rest]
    by_cases h : k' = e.1
    · subst h
      by_cases he : e.1 = k <;> simp [he]
    · by_cases he : e.1 = k
      · have hk : k' ≠ k := fun hk => h (hk.trans he.symm)
        simp [he, hk]
      · simp [he, h]

@[simp] theorem find?_modify (t : Table α) (k : String) (f : α → α) (k' : String) :
    (t.modify k f).find? k' = if k' = k then (t.find? k').map f else t.find? k' :=
  lookup_map k f k' t.entries

theorem lookup_filter (k k' : String) : ∀ es : List (String × α),
    lookup k' (es.filter fun e => e.1 ≠ k) = if k' = k then none else lookup k' es
  | [] => by simp [lookup]
  | e :: rest => by
    have ih := lookup_filter k k' rest
    by_cases he : e.1 = k
    · by_cases hk : k' = k <;> simp_all [lookup]
    · by_cases hk : k' = e.1 <;> simp_all [lookup]

@[simp] theorem find?_erase (t : Table α) (k k' : String) :
    (t.erase k).find? k' = if k' = k then none else t.find? k' :=
  lookup_filter k k' t.entries

theorem mem_entries_of_find? {t : Table α} {k : String} {v : α} (h : t.find? k = some v) :
    (k, v) ∈ t.entries := mem_of_lookup h

theorem mem_values_of_find? {t : Table α} {k : String} {v : α} (h : t.find? k = some v) :
    v ∈ t.values := List.mem_map.2 ⟨_, mem_entries_of_find? h, rfl⟩

theorem mem_keys_of_find? {t : Table α} {k : String} {v : α} (h : t.find? k = some v) :
    k ∈ t.keys := List.mem_map.2 ⟨_, mem_entries_of_find? h, rfl⟩

theorem lookup_of_mem {k : String} {v : α} :
    ∀ {es : List (String × α)}, es.Pairwise (fun a b => a.1 < b.1) → (k, v) ∈ es →
      lookup k es = some v
  | e :: rest, ho, h => by
    obtain ⟨hlt, ho⟩ := List.pairwise_cons.1 ho
    rcases List.mem_cons.1 h with rfl | h
    · simp [lookup]
    · have hne : k ≠ e.1 := by
        rintro rfl
        have hlt := hlt _ h
        exact String.lt_irrefl _ hlt
      rw [lookup, if_neg hne, lookup_of_mem ho h]

theorem find?_eq_some_iff {t : Table α} {k : String} {v : α} :
    t.find? k = some v ↔ (k, v) ∈ t.entries :=
  ⟨mem_entries_of_find?, lookup_of_mem t.ordered⟩

theorem mem_values_iff {t : Table α} {v : α} : v ∈ t.values ↔ ∃ k, t.find? k = some v := by
  simp [values, find?_eq_some_iff]

theorem contains_iff {t : Table α} {k : String} : t.contains k = true ↔ ∃ v, t.find? k = some v :=
  Option.isSome_iff_exists

theorem mem_keys_iff {t : Table α} {k : String} : k ∈ t.keys ↔ ∃ v, t.find? k = some v := by
  simp [keys, find?_eq_some_iff]

theorem place_of_fresh {k : String} (v : α) :
    ∀ {es : List (String × α)}, es.Pairwise (fun a b => a.1 < b.1) → lookup k es = none →
      ∃ smaller larger, es = smaller ++ larger ∧ place k v es = smaller ++ (k, v) :: larger ∧
        (∀ e ∈ smaller, e.1 < k) ∧ ∀ e ∈ larger, k < e.1
  | [], _, _ => ⟨[], [], rfl, rfl, by simp, by simp⟩
  | e :: rest, ho, hf => by
    obtain ⟨hlt, ho⟩ := List.pairwise_cons.1 ho
    rw [lookup] at hf
    split at hf
    · cases hf
    · next hne =>
      by_cases hk : k < e.1
      · refine ⟨[], e :: rest, rfl, by simp [place, hk], by simp, fun b hb => ?_⟩
        rcases List.mem_cons.1 hb with rfl | hb
        · exact hk
        · exact String.lt_trans hk (hlt b hb)
      · obtain ⟨smaller, larger, rfl, hplace, hsmaller, hlarger⟩ := place_of_fresh v ho hf
        refine ⟨e :: smaller, larger, rfl, by simp [place, hk, hne, hplace], ?_, hlarger⟩
        refine List.forall_mem_cons.2 ⟨?_, hsmaller⟩
        exact String.not_le.1 fun hle => hne (String.le_antisymm hle (String.not_lt.1 hk))

/-- Where there is nothing at a key, a value is put in between those at smaller and those at larger
keys. -/
theorem values_insert_of_fresh {t : Table α} {k : String} (hf : t.find? k = none) (v : α) :
    ∃ smaller larger, t.values = smaller ++ larger ∧
      (t.insert k v).values = smaller ++ v :: larger ∧
      (∀ a ∈ smaller, ∃ k', k' < k ∧ t.find? k' = some a) ∧
      ∀ a ∈ larger, ∃ k', k < k' ∧ t.find? k' = some a := by
  obtain ⟨smaller, larger, ht, hplace, hsmaller, hlarger⟩ := place_of_fresh v t.ordered hf
  refine ⟨smaller.map (·.2), larger.map (·.2), by simp [values, ht], by simp [values, insert, hplace],
    ?_, ?_⟩
  · intro a ha
    obtain ⟨e, he, rfl⟩ := List.mem_map.1 ha
    exact ⟨e.1, hsmaller e he, find?_eq_some_iff.2 (ht ▸ List.mem_append_left _ he)⟩
  · intro a ha
    obtain ⟨e, he, rfl⟩ := List.mem_map.1 ha
    exact ⟨e.1, hlarger e he, find?_eq_some_iff.2 (ht ▸ List.mem_append_right _ he)⟩

@[simp] theorem keys_modify (t : Table α) (k : String) (f : α → α) :
    (t.modify k f).keys = t.keys := by
  simp only [keys, modify, List.map_map]
  refine List.map_congr_left fun e _ => ?_
  by_cases he : e.1 = k <;> simp [he]

end Table

end OntologySchema
