import Mathlib.Data.List.Forall2
import OntologySchema.Proofs.Outcome

/-!
# Attempts that end alike

Two attempts end alike if they fail with the same error or both succeed, with results that are related in
some way. Statements about two runs of one program are put together along the program: what is related
after the first part of each is what the second parts start from.
-/

namespace OntologySchema.Attempt

variable {ε ε' α α' β β' : Type}

/-- Both attempts fail with the same error, or both have results, and `R` relates these. -/
inductive Alike (R : α → β → Prop) (x : Attempt ε α) (y : Attempt ε β) : Prop
  | error {e} (hx : x.result = .error e) (hy : y.result = .error e) : Alike R x y
  | ok {a b} (hx : x.result = .ok a) (hy : y.result = .ok b) (h : R a b) : Alike R x y

namespace Alike

variable {R : α → β → Prop} {S : α' → β' → Prop} {x : Attempt ε α} {y : Attempt ε β}

theorem pure {a : α} {b : β} (h : R a b) :
    Alike R (Pure.pure a : Attempt ε α) (Pure.pure b) := .ok rfl rfl h

/-- An attempt ends like itself. -/
theorem refl {R : α → α → Prop} (x : Attempt ε α) (h : ∀ a, R a a) : Alike R x x := by
  cases hx : x.result with
  | error e => exact .error hx hx
  | ok a => exact .ok hx hx (h a)

theorem result_eq {x y : Attempt ε α} (h : Alike Eq x y) : y.result = x.result := by
  cases h with
  | error hx hy => rw [hx, hy]
  | ok hx hy h => rw [hx, hy, h]

/-- Attempts that end alike fail alike. -/
theorem error_iff (h : Alike R x y) (e : ε) : x.result = .error e ↔ y.result = .error e := by
  cases h with
  | error hx hy => rw [hx, hy, Except.error.injEq, Except.error.injEq]
  | ok hx hy h => rw [hx, hy]; exact ⟨fun he => (nomatch he), fun he => (nomatch he)⟩

/-- Attempts that end alike succeed alike. -/
theorem exists_ok {a : α} (h : Alike R x y) (hx : x.result = .ok a) :
    ∃ b, y.result = .ok b ∧ R a b := by
  cases h with
  | error hx' _ => cases hx.symm.trans hx'
  | ok hx' hy h => exact ⟨_, hy, Except.ok.inj (hx.symm.trans hx') ▸ h⟩

theorem of_ok {a : α} {b : β} (h : Alike R x y) (hx : x.result = .ok a) (hy : y.result = .ok b) :
    R a b := by
  obtain ⟨b', hy', hR⟩ := h.exists_ok hx
  obtain rfl : b = b' := Except.ok.inj (hy.symm.trans hy')
  exact hR

/-- What is known of the results may be used to relate them in another way. -/
theorem imp {T : α → β → Prop} (h : Alike R x y)
    (hT : ∀ a b, x.result = .ok a → y.result = .ok b → R a b → T a b) : Alike T x y := by
  cases h with
  | error hx hy => exact .error hx hy
  | ok hx hy h => exact .ok hx hy (hT _ _ hx hy h)

/-- Sequences are alike if their first parts are and the rest is, whatever the first parts have given. -/
theorem bind {f : α → Attempt ε α'} {g : β → Attempt ε β'} (h : Alike R x y)
    (hfg : ∀ a b, x.result = .ok a → y.result = .ok b → R a b → Alike S (f a) (g b)) :
    Alike S (x >>= f) (y >>= g) := by
  cases h with
  | error hx hy => exact .error (result_bind_of_error hx) (result_bind_of_error hy)
  | ok hx hy h =>
    cases hfg _ _ hx hy h with
    | error hf hg =>
      exact .error ((result_bind_of_ok hx).trans hf) ((result_bind_of_ok hy).trans hg)
    | ok hf hg hS => exact .ok ((result_bind_of_ok hx).trans hf) ((result_bind_of_ok hy).trans hg) hS

theorem mapError {f : ε → ε'} (h : Alike R x y) : Alike R (x.mapError f) (y.mapError f) := by
  cases h with
  | error hx hy =>
    exact .error (result_mapError_eq_error.2 ⟨_, hx, rfl⟩) (result_mapError_eq_error.2 ⟨_, hy, rfl⟩)
  | ok hx hy h => exact .ok (result_mapError_eq_ok.2 hx) (result_mapError_eq_ok.2 hy) h

/-- Attempts on the members of two lists are alike if they are so member by member. -/
theorem mapM {f : α → Attempt ε α'} {g : β → Attempt ε β'} {as : List α} {bs : List β}
    (h : List.Forall₂ (fun a b => Alike S (f a) (g b)) as bs) :
    Alike (List.Forall₂ S) (as.mapM f) (bs.mapM g) := by
  induction h with
  | nil => exact pure .nil
  | cons hab _ ih =>
    rw [List.mapM_cons, List.mapM_cons]
    exact hab.bind fun _ _ _ _ ha => ih.bind fun _ _ _ _ has => pure (.cons ha has)

end Alike

end OntologySchema.Attempt
