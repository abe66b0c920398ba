import OntologySchema.Proofs.Naming.Boundaries
import OntologySchema.Proofs.Text.Lowercase

/-!
# Field names are in normal form

A text is a field name already if each of its characters is its own lowercase and none is one that a name cannot
hold (`IsFieldName`). Snake case makes field names, and field names are what it leaves as they are: there is
nothing to clean in them, no capital in front of which an underscore would go, and nothing to lowercase. So to
convert a name twice is to convert it once (`snakeCase_normal`).
-/

namespace OntologySchema.Naming

open Text

/-- A text that is a field name already. -/
def IsFieldName (s : String) : Prop := ∀ c ∈ s.toList, Settled c ∧ isSeparator c = false

/-- Marking boundaries brings nothing but underscores into a text. -/
theorem mem_markBoundaries {cs : List Char} {c : Char} (h : c ∈ markBoundaries cs) :
    c ∈ cs ∨ c = '_' := by
  induction cs with
  | nil => cases h
  | cons d cs ih =>
    rw [markBoundaries_cons, List.mem_append] at h
    rcases h with h | h
    · have hfront : c = d ∨ c = '_' := by
        split at h
        · simpa using h
        · exact .inl (List.mem_singleton.1 h)
      exact hfront.imp_left (by rintro rfl; exact List.mem_cons_self)
    · exact (ih h).imp (List.mem_cons_of_mem _) id

/-- Snake case is lowercase with an underscore at each boundary. -/
theorem snakeCase_eq (s : String) :
    snakeCase s = String.ofList (lower (markBoundaries (clean s).toList)) := by
  rw [snakeCase, markCapitals_markWords]

theorem isSeparator_of_mem_clean {s : String} {c : Char} (h : c ∈ (clean s).toList) :
    isSeparator c = false := by
  rw [clean, String.toList_ofList] at h
  simpa using (List.mem_filter.1 h).2

/-- Snake case makes field names. -/
theorem isFieldName_snakeCase (s : String) : IsFieldName (snakeCase s) := by
  intro c hc
  rw [snakeCase_eq, String.toList_ofList] at hc
  obtain ⟨d, hd, hlower⟩ := lowerOf_of_mem_lowerFrom hc
  refine ⟨hlower.settled, ?_⟩
  rcases hlower.same_or_high with rfl | hhigh
  · rcases mem_markBoundaries hd with hd | rfl
    · exact isSeparator_of_mem_clean hd
    · decide
  · exact isSeparator_of (P := fun c => 0x60 < c.toNat) (by decide) hhigh

theorem snakeCase_of_isFieldName {s : String} (h : IsFieldName s) : snakeCase s = s := by
  have hclean : clean s = s := by
    rw [clean, List.filter_eq_self.2 fun c hc => by rw [(h c hc).2]; rfl, String.ofList_toList]
  have hcapitals : ∀ c ∈ s.toList, isUpper c = false := fun c hc => isUpper_of_settled (h c hc).1
  rw [snakeCase, hclean, markWords_eq_self false _ hcapitals, markCapitals_eq_self _ hcapitals, lower,
    lowerFrom_eq_self false fun c hc => (h c hc).1, String.ofList_toList]

/-- The field names are the texts that snake case leaves as they are. -/
theorem snakeCase_eq_self_iff {s : String} : snakeCase s = s ↔ IsFieldName s :=
  ⟨fun h => h ▸ isFieldName_snakeCase s, snakeCase_of_isFieldName⟩

/-- A field name has no capitals of ASCII, no spaces, slashes or hyphens, and to convert it again changes nothing. -/
theorem snakeCase_normal (s : String) :
    (∀ c ∈ (snakeCase s).toList, isUpper c = false ∧ c ≠ ' ' ∧ c ≠ '/' ∧ c ≠ '-') ∧
      snakeCase (snakeCase s) = snakeCase s := by
  have hname := isFieldName_snakeCase s
  refine ⟨fun c hc => ?_, snakeCase_eq_self_iff.2 hname⟩
  obtain ⟨hsettled, hseparator⟩ := hname c hc
  refine ⟨isUpper_of_settled hsettled, ?_, ?_, ?_⟩ <;>
    · rintro rfl
      exact absurd hseparator (by decide)

example : snakeCase (snakeCase "ΟΔΟΣ/İd-Σ") = "οδοσi̇dς" := by cbv

end OntologySchema.Naming
