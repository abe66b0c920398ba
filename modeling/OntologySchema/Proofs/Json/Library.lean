import Mathlib.Data.List.Forall2
import OntologySchema.Json.Library

/-!
# What a library for JSON is relied on for

The library is not part of this program. What the program relies on is documented of it: what was made can be
taken apart again, and a text that was printed is parsed to the value it was printed from. Parsers refuse
texts that are nested too deep, so the last holds of values that are nested less than `nestingLimit` deep,
and of these only where they were made from the operations of the library (`Built`).
-/

namespace OntologySchema.Json

variable {J : Type} [Library J]

/-- A value that was made by the operations of the library, nested at most `n` deep. No record has two fields
of one name, and no table two entries with one key. -/
inductive Built : Nat → J → Prop
  | null (n : Nat) : Built n Library.null
  | text (n : Nat) (s : String) : Built n (Library.text s)
  | list {n : Nat} {items : List J} (h : ∀ v ∈ items, Built n v) : Built (n + 1) (Library.list items)
  | record {n : Nat} {fields : List (String × J)} (hnames : (fields.map (·.1)).Nodup)
      (h : ∀ m ∈ fields, Built n m.2) : Built (n + 1) (Library.record fields)
  | table {n : Nat} {entries : List (String × J)} (hkeys : (entries.map (·.1)).Nodup)
      (h : ∀ m ∈ entries, Built n m.2) : Built (n + 1) (Library.table entries)

/-- Texts are parsed that are nested less deep than this. -/
def nestingLimit : Nat := 128

/-- What is documented of a library. -/
class LawfulLibrary (J : Type) [Library J] : Prop where
  isNull_null : Library.isNull (Library.null : J) = true
  isNull_text (s : String) : Library.isNull (Library.text s : J) = false
  text?_text (s : String) : Library.text? (Library.text s : J) = some s
  items?_list (items : List J) : Library.items? (Library.list items) = some items
  /-- A record is read by the fields that it was written with. -/
  fields?_record {fields : List (String × J)} (hnames : (fields.map (·.1)).Nodup) {least : Nat}
      (hleast : least ≤ fields.length) :
    Library.fields? (fields.map (·.1)) least (Library.record fields) = some fields
  entries?_table {entries : List (String × J)} (hkeys : (entries.map (·.1)).Nodup) :
    Library.entries? (Library.table entries) = some entries
  /-- A value is printed, and parsed from its text. A line break may stand at the end of that. -/
  parse?_print? {n : Nat} {v : J} (h : Built n v) (hn : n < nestingLimit) :
    ∃ printed, Library.print? v = some printed ∧ Library.parse? printed = some v ∧
      Library.parse? (printed ++ "\n") = some v

/-! ### Values that can be read -/

namespace Built

/-- What is nested at most so deep is nested at most deeper. -/
theorem succ {n : Nat} {v : J} (h : Built n v) : Built (n + 1) v := by
  induction h with
  | null n => exact .null _
  | text n s => exact .text _ s
  | list _ ih => exact .list ih
  | record hnames _ ih => exact .record hnames ih
  | table hkeys _ ih => exact .table hkeys ih

theorem mono {n m : Nat} {v : J} (h : Built n v) (hle : n ≤ m) : Built m v := by
  induction hle with
  | refl => exact h
  | step _ ih => exact ih.succ

end Built

end OntologySchema.Json
