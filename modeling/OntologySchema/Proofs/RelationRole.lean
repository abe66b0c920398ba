import Mathlib
import OntologySchema.Proofs.Naming.Plural
import OntologySchema.RelationRole

/-!
# Names of references

The field of a reference is named after its target. Below the root the name of the embedded target gets `_id` or
`_ids` behind it, whatever the target is called (`identifier_names`).

Elsewhere the field of a reference to many targets is named after the plural of the target. It is the plural of the
field name of one target, unless the name of the target ends in an acronym, which is cut before its last letter, or
in a capital Y, which the plural of the target keeps (`embedded_names`).
-/

namespace OntologySchema.RelationRole

open Naming Text

/-- The field of an identifier is named like the field of what it identifies, with `_id` or `_ids` behind it; and that
is so because these suffixes may be put to the name of the target or to the name of the field. -/
theorem identifier_names (target : String) :
    ((single.field target true).name = (single.field target false).name ++ "_id" ∧
      (repeated.field target true).name = (single.field target false).name ++ "_ids") ∧
    snakeCase (target ++ "_id") = snakeCase target ++ "_id" ∧
    snakeCase (target ++ "_ids") = snakeCase target ++ "_ids" :=
  ⟨⟨snakeCase_id target, snakeCase_ids target⟩, snakeCase_id target, snakeCase_ids target⟩

example : (repeated.field "ΟΔΟΣ" true).name = "οδος_ids" := by cbv

/-- For targets named with letters and digits: the field of many targets is named by the plural of the field name of one
target, unless the target ends in an acronym or in a capital Y; and behind an acronym the name of many has an
underscore that the name of one has not. -/
theorem embedded_names {target : String} (h : ∀ c ∈ target.toList, isAlphanumeric c = true) :
    ((repeated.field target false).name = plural (single.field target false).name ↔
      endsInAcronym target = false ∧ target.toList.getLast? ≠ some 'Y') ∧
    (endsInAcronym target = true → ∃ name last,
      (single.field target false).name = String.ofList (name ++ [last]) ∧
        (repeated.field target false).name = String.ofList (name ++ ['_', last, 's'])) :=
  ⟨snakeCase_plural_iff h, snakeCase_plural_acronym h⟩

theorem embedded_names_policyAndMachine :
    ((∀ c ∈ "FirewallPolicy".toList, isAlphanumeric c = true) ∧
      (repeated.field "FirewallPolicy" false).name = plural (single.field "FirewallPolicy" false).name) ∧
    (∀ c ∈ "EdgeVM".toList, isAlphanumeric c = true) ∧ ∃ name last,
      (single.field "EdgeVM" false).name = String.ofList (name ++ [last]) ∧
        (repeated.field "EdgeVM" false).name = String.ofList (name ++ ['_', last, 's']) := by
  have hpolicy : ∀ c ∈ "FirewallPolicy".toList, isAlphanumeric c = true := List.all_eq_true.1 (by decide)
  have hvm : ∀ c ∈ "EdgeVM".toList, isAlphanumeric c = true := List.all_eq_true.1 (by decide)
  exact ⟨⟨hpolicy, (embedded_names hpolicy).1.2 ⟨by decide, by decide⟩⟩, hvm,
    (embedded_names hvm).2 (by decide)⟩

/-- The acronym of one machine is a word, and that of many is cut in two. -/
theorem acronym_cut :
    (∀ c ∈ "VM".toList, isAlphanumeric c = true) ∧
      plural (single.field "VM" false).name = "vms" ∧ (repeated.field "VM" false).name = "v_ms" ∧
      (repeated.field "VM" false).name ≠ plural (single.field "VM" false).name := by
  have hone : plural (single.field "VM" false).name = "vms" := by cbv
  have hmany : (repeated.field "VM" false).name = "v_ms" := by cbv
  refine ⟨List.all_eq_true.1 (by decide), hone, hmany, ?_⟩
  rw [hone, hmany]
  decide

end OntologySchema.RelationRole
