import Mathlib.Data.List.Forall2
import OntologySchema.Log

/-!
# How attempts fail

`FailsOnly P x` says of an attempt that `P` holds of whatever failure it has. A sequence of attempts
fails as its parts do, so such a statement is put together along the program; with a `P` that nothing
satisfies it says that the attempt succeeds. What an attempt logs is put together in the same way.
-/

namespace OntologySchema.Attempt

variable {ε ε' α β : Type} {P Q : ε → Prop}

/-- `P` holds of every failure of the attempt. -/
def FailsOnly (P : ε → Prop) (x : Attempt ε α) : Prop := ∀ e, x.result = .error e → P e

namespace FailsOnly

theorem pure (a : α) : FailsOnly P (Pure.pure a : Attempt ε α) := fun _ h => by cases h

theorem tell {l : Log.Level} {m : String} {fs : List (String × Log.Value)} :
    FailsOnly P (Attempt.tell l m fs : Attempt ε Unit) := fun _ h => by cases h

theorem bind {x : Attempt ε α} {f : α → Attempt ε β} (hx : FailsOnly P x)
    (hf : ∀ a, x.result = .ok a → FailsOnly P (f a)) : FailsOnly P (x >>= f) := by
  intro e h
  rcases result_bind_eq_error.1 h with h | ⟨a, ha, h⟩
  · exact hx e h
  · exact hf a ha e h

theorem mapError {P : ε' → Prop} {f : ε → ε'} {x : Attempt ε α}
    (hx : FailsOnly (fun e => P (f e)) x) : FailsOnly P (x.mapError f) := by
  intro e' h
  obtain ⟨e, he, rfl⟩ := result_mapError_eq_error.1 h
  exact hx e he

theorem mono {x : Attempt ε α} (hx : FailsOnly P x) (h : ∀ e, P e → Q e) : FailsOnly Q x :=
  fun e he => h e (hx e he)

theorem mapM {f : α → Attempt ε β} : ∀ {as : List α}, (∀ a ∈ as, FailsOnly P (f a)) →
    FailsOnly P (as.mapM f)
  | [], _ => pure _
  | a :: as, h => by
    rw [List.mapM_cons]
    refine bind (h a List.mem_cons_self) fun b _ => ?_
    exact bind (mapM fun a ha => h a (List.mem_cons_of_mem _ ha)) fun _ _ => pure _

/-- An attempt that has no way to fail has a result. -/
theorem exists_ok {x : Attempt ε α} (hx : FailsOnly P x) (hP : ∀ e, ¬ P e) :
    ∃ a, x.result = .ok a := by
  cases h : x.result with
  | ok a => exact ⟨a, rfl⟩
  | error e => exact absurd (hx e h) (hP e)

end FailsOnly

theorem result_bind_of_ok {x : Attempt ε α} {f : α → Attempt ε β} {a : α} (h : x.result = .ok a) :
    (x >>= f).result = (f a).result := by
  rw [result_bind, h]
  rfl

theorem result_bind_of_error {x : Attempt ε α} {f : α → Attempt ε β} {e : ε}
    (h : x.result = .error e) : (x >>= f).result = .error e := by
  rw [result_bind, h]
  rfl

theorem result_bind_pure (x : Attempt ε α) (f : α → β) :
    (x >>= fun a => pure (f a)).result = x.result.map f := by
  rw [result_bind]
  cases x.result <;> rfl

/-- What is known after `f` of a result shows that there is a result. -/
theorem exists_of_result_map {x : Attempt ε α} {f : α → β} {b : β}
    (h : x.result.map f = .ok b) : ∃ a, x.result = .ok a ∧ f a = b := by
  cases hx : x.result with
  | error e => rw [hx] at h; cases h
  | ok a => rw [hx] at h; exact ⟨a, rfl, Except.ok.inj h⟩

/-- Two sequences with one start are equal if they go on in one way from its result. -/
theorem bind_congr_of_result {x : Attempt ε α} {f g : α → Attempt ε β}
    (h : ∀ a, x.result = .ok a → f a = g a) : x >>= f = x >>= g := by
  obtain ⟨r, events⟩ := x
  cases r with
  | ok a => exact congrArg (Logged.bind ⟨(), events⟩ fun _ => ·) (h a rfl)
  | error e => rfl

/-- A failure is read as another one wherever in a sequence it comes up. -/
theorem mapError_bind (g : ε → ε') (x : Attempt ε α) (f : α → Attempt ε β) :
    (x >>= f).mapError g = x.mapError g >>= fun a => (f a).mapError g := by
  obtain ⟨r, events⟩ := x
  cases r <;> rfl

/-- Attempts on each member of a list succeed just when each of them does. -/
theorem result_mapM_eq_ok {f : α → Attempt ε β} {as : List α} {bs : List β} :
    (as.mapM f).result = .ok bs ↔ List.Forall₂ (fun a b => (f a).result = .ok b) as bs := by
  induction as generalizing bs with
  | nil =>
    rw [List.mapM_nil, result_pure, List.forall₂_nil_left_iff]
    exact ⟨fun h => by cases h; rfl, fun h => by rw [h]⟩
  | cons a as ih =>
    simp only [List.mapM_cons, result_bind_eq_ok, result_pure, List.forall₂_cons_left_iff, ih]
    constructor
    · rintro ⟨b, hb, bs, hbs, h⟩
      cases h
      exact ⟨b, bs, hb, hbs, rfl⟩
    · rintro ⟨b, bs, hb, hbs, rfl⟩
      exact ⟨b, hb, bs, hbs, rfl⟩

/-! ### Events -/

theorem events_bind_of_ok {x : Attempt ε α} {f : α → Attempt ε β} {a : α} (h : x.result = .ok a) :
    (x >>= f).events = x.events ++ (f a).events := by
  have hvalue : x.run.value = .ok a := h
  change x.run.events ++ (ExceptT.bindCont f x.run.value).events = _
  rw [hvalue]
  rfl

theorem events_bind_of_error {x : Attempt ε α} {f : α → Attempt ε β} {e : ε}
    (h : x.result = .error e) : (x >>= f).events = x.events := by
  have hvalue : x.run.value = .error e := h
  change x.run.events ++ (ExceptT.bindCont f x.run.value).events = _
  rw [hvalue]
  exact List.append_nil _

/-- Attempts on the members of a list log one after the other. -/
theorem events_mapM {f : α → Attempt ε β} : ∀ {as : List α} {bs : List β},
    (as.mapM f).result = .ok bs → (as.mapM f).events = as.flatMap fun a => (f a).events
  | [], _, _ => rfl
  | a :: as, bs, h => by
    rw [List.mapM_cons] at h ⊢
    obtain ⟨b, hb, h⟩ := result_bind_eq_ok.1 h
    obtain ⟨bs', hbs, h⟩ := result_bind_eq_ok.1 h
    rw [events_bind_of_ok hb, events_bind_of_ok hbs, events_mapM hbs, List.flatMap_cons]
    exact congrArg _ (List.append_nil _)

/-! ### Lists that match -/

/-- Each member of a list has its counterpart in a list that matches it. -/
theorem exists_of_forall₂ {R : α → β → Prop} : ∀ {as : List α} {bs : List β},
    List.Forall₂ R as bs → ∀ {a}, a ∈ as → ∃ b ∈ bs, R a b
  | _ :: _, _ :: _, .cons hab hr, a, ha => by
    rcases List.mem_cons.1 ha with rfl | ha
    · exact ⟨_, List.mem_cons_self, hab⟩
    · obtain ⟨b, hb, h⟩ := exists_of_forall₂ hr ha
      exact ⟨b, List.mem_cons_of_mem _ hb, h⟩

/-- Two lists that match still do after a change of what matching means, if it is kept for members. -/
theorem forall₂_imp_of_mem {R S : α → β → Prop} {as : List α} {bs : List β}
    (h : List.Forall₂ R as bs) (hRS : ∀ a ∈ as, ∀ b ∈ bs, R a b → S a b) : List.Forall₂ S as bs := by
  rw [List.forall₂_iff_zip] at h ⊢
  refine ⟨h.1, fun hm => ?_⟩
  obtain ⟨ha, hb⟩ := List.of_mem_zip hm
  exact hRS _ ha _ hb (h.2 hm)

/-- Two lists match in what is read off their members just when that makes equal lists. -/
theorem forall₂_eq_iff {γ : Type} {f : α → γ} {g : β → γ} {as : List α} {bs : List β} :
    List.Forall₂ (fun a b => f a = g b) as bs ↔ as.map f = bs.map g := by
  rw [← List.forall₂_eq_eq_eq, List.forall₂_map_left_iff, List.forall₂_map_right_iff]

/-- A list has a match just when each of its members has a counterpart. -/
theorem exists_forall₂_iff {R : α → β → Prop} {as : List α} :
    (∃ bs, List.Forall₂ R as bs) ↔ ∀ a ∈ as, ∃ b, R a b := by
  induction as with
  | nil => exact ⟨fun _ _ ha => (List.not_mem_nil ha).elim, fun _ => ⟨[], .nil⟩⟩
  | cons a as ih =>
    rw [List.forall_mem_cons, ← ih]
    constructor
    · rintro ⟨_, _ | ⟨hab, hr⟩⟩
      exact ⟨⟨_, hab⟩, _, hr⟩
    · rintro ⟨⟨b, hb⟩, bs, hbs⟩
      exact ⟨b :: bs, .cons hb hbs⟩

/-- What matches two lists in a row is two lists in a row. -/
theorem forall₂_append_left {R : α → β → Prop} : ∀ {as as' : List α} {bs : List β},
    List.Forall₂ R (as ++ as') bs →
      ∃ cs cs', bs = cs ++ cs' ∧ List.Forall₂ R as cs ∧ List.Forall₂ R as' cs'
  | [], _, bs, h => ⟨[], bs, rfl, .nil, h⟩
  | _ :: _, _, _ :: _, .cons hab hr => by
    obtain ⟨cs, cs', rfl, hcs, hcs'⟩ := forall₂_append_left hr
    exact ⟨_ :: cs, cs', rfl, .cons hab hcs, hcs'⟩

/-- Lists that match do so place by place. -/
theorem forall₂_mem_zip {R : α → β → Prop} {as : List α} {bs : List β} (h : List.Forall₂ R as bs) :
    List.Forall₂ (fun a b => (a, b) ∈ as.zip bs) as bs :=
  List.forall₂_iff_zip.2 ⟨h.length_eq, fun hm => hm⟩

end OntologySchema.Attempt
