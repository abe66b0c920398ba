import OntologySchema.Proofs.Outcome
import OntologySchema.Schema.OfOntology

/-!
# Drafting and numbering

Items are drafted and numbered one by one. The fields that come of it are those of the items that have a
draft, in the order of the items and one for each (`forall₂_numberAll`); the numbers decide nothing about
which fields there are. Hashed numbers never run out.
-/

namespace OntologySchema

namespace FieldNumber

/-- Counting goes on until the bound is reached. -/
theorem next_counted (counter : Nat) (key : List String) :
    next false counter key =
      if counter + 1 < reservedFrom then .ok (counter + 1, counter + 1) else .error ⟨counter + 1⟩ := by
  unfold next ascending
  rw [if_neg Bool.false_ne_true]
  by_cases h : counter + 1 < reservedFrom
  · rw [if_pos h, if_neg (Nat.not_le_of_lt h)]
    rfl
  · rw [if_neg h, if_pos (Nat.le_of_not_lt h)]
    rfl

end FieldNumber

namespace Numbering

open Attempt

variable {message field : String} {key : List String} {numbering next : Numbering}

@[simp] theorem hashed_fresh (hash : Bool) : (fresh hash).hashed = hash := rfl

@[simp] theorem counter_fresh (hash : Bool) : (fresh hash).counter = 0 := rfl

/-- The result of an attempt is that of the call, with the numbering after it. -/
theorem result_assign (message field : String) (key : List String) (numbering : Numbering) :
    (numbering.assign message field key).result =
      (numbering.call message field key).value.1.map
        fun n => (n, (numbering.call message field key).value.2) := rfl

/-- An attempt logs what the call logs. -/
theorem events_assign_eq_events_call (message field : String) (key : List String)
    (numbering : Numbering) : (numbering.assign message field key).events =
      (numbering.call message field key).events := List.append_nil _

/-- What a call gives: a refusal, which leaves the numbering as it was, or the next number. What was handed
out before decides who holds a number, not which number is handed out. -/
theorem value_call (message field : String) (key : List String) (numbering : Numbering) :
    (numbering.call message field key).value =
      match FieldNumber.next numbering.hashed numbering.counter key with
      | .error e => (.error e, numbering)
      | .ok (n, counter) =>
        (.ok n, { numbering with
          counter
          holders := if (numbering.holders.lookup n).isSome then numbering.holders
            else (n, field) :: numbering.holders }) := by
  unfold call
  cases FieldNumber.next numbering.hashed numbering.counter key with
  | error e => rfl
  | ok x =>
    obtain ⟨n, counter⟩ := x
    dsimp only
    cases numbering.holders.lookup n <;> rfl

theorem assign_eq_ok {n : Nat} (h : (numbering.assign message field key).result = .ok (n, next)) :
    FieldNumber.next numbering.hashed numbering.counter key = .ok (n, next.counter) ∧
      next.hashed = numbering.hashed := by
  rw [result_assign, value_call] at h
  cases hn : FieldNumber.next numbering.hashed numbering.counter key with
  | error e =>
    rw [hn] at h
    cases h
  | ok x =>
    rw [hn] at h
    cases h
    exact ⟨rfl, rfl⟩

/-- A number is refused only because there is none. -/
theorem assign_eq_error {e : NumbersExhausted} :
    (numbering.assign message field key).result = .error e ↔
      FieldNumber.next numbering.hashed numbering.counter key = .error e := by
  rw [result_assign, value_call]
  cases FieldNumber.next numbering.hashed numbering.counter key with
  | error e' => simp only [Except.map, Except.error.injEq]
  | ok x => exact iff_of_false (fun h => nomatch h) (fun h => nomatch h)

/-- If there is a number, it is handed out. -/
theorem exists_assign (message field : String) {n counter : Nat}
    (hn : FieldNumber.next numbering.hashed numbering.counter key = .ok (n, counter)) :
    ∃ next, (numbering.assign message field key).result = .ok (n, next) ∧
      next.hashed = numbering.hashed ∧ next.counter = counter := by
  cases h : (numbering.assign message field key).result with
  | ok x =>
    obtain ⟨hn', hhashed⟩ := assign_eq_ok h
    rw [hn] at hn'
    cases hn'
    exact ⟨x.2, rfl, hhashed, rfl⟩
  | error e =>
    rw [assign_eq_error, hn] at h
    cases h

theorem assign_hashed_fails (message field : String) (key : List String)
    (hn : numbering.hashed = true) :
    (numbering.assign message field key).FailsOnly (fun _ => False) := by
  intro e h
  rw [assign_eq_error, hn] at h
  cases h

end Numbering

namespace Schema

open Attempt

variable {α : Type} {message : String} {draft : α → Attempt HierarchyError (Option Draft)}

/-- What a numbering of one more item consists of. -/
theorem numberAll_cons_eq_ok {item : α} {items : List α} {numbering next : Numbering}
    {fields : List Field}
    (h : (numberAll message draft (item :: items) numbering).result = .ok (fields, next)) :
    ((draft item).result = .ok none ∧
        (numberAll message draft items numbering).result = .ok (fields, next)) ∨
      ∃ d n middle rest, (draft item).result = .ok (some d) ∧
        (numbering.assign message d.shape.name d.key).result = .ok (n, middle) ∧
        (numberAll message draft items middle).result = .ok (rest, next) ∧
        fields = d.numbered n :: rest := by
  rw [numberAll] at h
  obtain ⟨d?, hd, h⟩ := result_bind_eq_ok.1 h
  rw [result_mapError_eq_ok] at hd
  cases d? with
  | none => exact .inl ⟨hd, h⟩
  | some d =>
    obtain ⟨⟨n, middle⟩, hn, h⟩ := result_bind_eq_ok.1 h
    rw [result_mapError_eq_ok] at hn
    obtain ⟨⟨rest, _⟩, hr, h⟩ := result_bind_eq_ok.1 h
    cases h
    exact .inr ⟨d, n, middle, rest, hd, hn, hr, rfl⟩

/-- An item without a draft is passed over. -/
theorem result_numberAll_cons_none {item : α} {items : List α} {numbering : Numbering}
    (hd : (draft item).result = .ok none) :
    (numberAll message draft (item :: items) numbering).result =
      (numberAll message draft items numbering).result := by
  rw [numberAll, result_bind_of_ok (result_mapError_eq_ok.2 hd)]

/-- An item with a draft is numbered in front of the others. -/
theorem result_numberAll_cons_some {item : α} {items : List α} {numbering middle : Numbering}
    {d : Draft} {n : Nat} (hd : (draft item).result = .ok (some d))
    (hn : (numbering.assign message d.shape.name d.key).result = .ok (n, middle)) :
    (numberAll message draft (item :: items) numbering).result =
      (numberAll message draft items middle).result.map fun x => (d.numbered n :: x.1, x.2) := by
  rw [numberAll, result_bind_of_ok (result_mapError_eq_ok.2 hd)]
  dsimp only
  rw [result_bind_of_ok (result_mapError_eq_ok.2 hn), result_bind]
  cases (numberAll message draft items middle).result <;> rfl

/-- An item for whose draft there is no number ends the numbering. -/
theorem result_numberAll_cons_error {item : α} {items : List α} {numbering : Numbering} {d : Draft}
    {e : NumbersExhausted} (hd : (draft item).result = .ok (some d))
    (hn : (numbering.assign message d.shape.name d.key).result = .error e) :
    (numberAll message draft (item :: items) numbering).result = .error (.numbers e) := by
  rw [numberAll, result_bind_of_ok (result_mapError_eq_ok.2 hd)]
  exact result_bind_of_error (result_mapError_eq_error.2 ⟨e, hn, rfl⟩)

/-- The field `f` is that of the item `i`, as it was drafted; a hashed number is that of the key. -/
def DraftedAs (draft : α → Attempt HierarchyError (Option Draft)) (hashed : Bool) (i : α)
    (f : Field) : Prop :=
  ∃ d n, (draft i).result = .ok (some d) ∧ f = d.numbered n ∧
    (hashed = true → n = FieldNumber.hashed d.key)

/-- The fields are those of the items that are shown. -/
theorem forall₂_drafted {shown : α → Bool}
    (hshown : ∀ i d?, (draft i).result = .ok d? → d?.isSome = shown i) :
    ∀ {items : List α} {numbering next : Numbering} {fields : List Field},
      (numberAll message draft items numbering).result = .ok (fields, next) →
      List.Forall₂ (DraftedAs draft numbering.hashed) (items.filter shown) fields
  | [], _, _, _, h => by
    cases h
    exact .nil
  | item :: items, numbering, _, _, h => by
    rcases numberAll_cons_eq_ok h with ⟨hd, hr⟩ | ⟨d, n, middle, _, hd, hn, hr, rfl⟩
    · rw [List.filter_cons_of_neg (by simp [← hshown item none hd])]
      exact forall₂_drafted hshown hr
    · rw [List.filter_cons_of_pos (by simp [← hshown item (some d) hd])]
      obtain ⟨hnext, hhashed⟩ := Numbering.assign_eq_ok hn
      refine .cons ⟨d, n, hd, rfl, fun hash => ?_⟩ (hhashed ▸ forall₂_drafted hshown hr)
      rw [hash] at hnext
      exact (Prod.ext_iff.1 (Except.ok.inj hnext)).1.symm

/-- What is shown has a draft, and what is not has none. -/
theorem isSome_of_shown {d? : Option Draft} {shown : Bool} {P : Draft → Prop}
    (h : if shown then ∃ d, d? = some d ∧ P d else d? = none) : d?.isSome = shown := by
  cases shown with
  | true =>
    obtain ⟨d, rfl, -⟩ := h
    rfl
  | false => exact congrArg Option.isSome h

/-- What holds of the field of each item that is shown, however it is numbered, holds of the fields. -/
theorem forall₂_numberAll {shown : α → Bool} {R : α → Field → Prop}
    (hdraft : ∀ i d?, (draft i).result = .ok d? →
      if shown i then ∃ d, d? = some d ∧ ∀ n, R i (d.numbered n) else d? = none)
    {items : List α} {numbering next : Numbering} {fields : List Field}
    (h : (numberAll message draft items numbering).result = .ok (fields, next)) :
    List.Forall₂ R (items.filter shown) fields := by
  have hshown : ∀ i d?, (draft i).result = .ok d? → d?.isSome = shown i :=
    fun i d? hd => isSome_of_shown (hdraft i d? hd)
  refine forall₂_imp_of_mem (forall₂_drafted hshown h) fun i hi f _ hf => ?_
  obtain ⟨d, n, hd, rfl, -⟩ := hf
  have hR := hdraft i (some d) hd
  rw [if_pos (List.mem_filter.1 hi).2] at hR
  obtain ⟨_, he, hR⟩ := hR
  cases he
  exact hR n

/-- Each leaf has a variant. -/
theorem forall₂_drafted_variants {o : Ontology} {leaves : List OntClass}
    {numbering next : Numbering} {variants : List Field}
    (h : (numberAll message (variantDraft o) leaves numbering).result = .ok (variants, next)) :
    List.Forall₂ (DraftedAs (variantDraft o) numbering.hashed) leaves variants := by
  have hall : List.Forall₂ (DraftedAs (variantDraft o) numbering.hashed)
      (leaves.filter fun _ => true) variants := by
    refine forall₂_drafted (fun leaf d? hd => ?_) h
    obtain ⟨_, _, hd⟩ := result_bind_eq_ok.1 hd
    cases hd
    rfl
  rwa [List.filter_true] at hall

theorem hashed_of_numberAll : ∀ {items : List α} {numbering next : Numbering}
    {fields : List Field},
    (numberAll message draft items numbering).result = .ok (fields, next) →
    next.hashed = numbering.hashed
  | [], _, _, _, h => by cases h; rfl
  | item :: items, _, _, _, h => by
    rcases numberAll_cons_eq_ok h with ⟨_, hr⟩ | ⟨_, _, _, _, _, hn, hr, _⟩
    · exact hashed_of_numberAll hr
    · rw [hashed_of_numberAll hr, (Numbering.assign_eq_ok hn).2]

/-- A numbering fails as the drafts do, or because the numbers run out. -/
theorem numberAll_fails {P : SchemaError → Prop} : ∀ {items : List α} {numbering : Numbering},
    (∀ i ∈ items, (draft i).FailsOnly fun e => P (.hierarchy e)) →
    (numbering.hashed = true ∨ ∀ e, P (.numbers e)) →
    (numberAll message draft items numbering).FailsOnly P
  | [], _, _, _ => .pure _
  | item :: items, numbering, hdraft, hn => by
    have hrest : ∀ i ∈ items, (draft i).FailsOnly fun e => P (.hierarchy e) :=
      fun i hi => hdraft i (List.mem_cons_of_mem _ hi)
    rw [numberAll]
    refine .bind (.mapError (hdraft item List.mem_cons_self)) fun d? _ => ?_
    cases d? with
    | none => exact numberAll_fails hrest hn
    | some d =>
      have hassign : (numbering.assign message d.shape.name d.key).FailsOnly
          fun e => P (.numbers e) := by
        rcases hn with hn | hn
        · exact (Numbering.assign_hashed_fails _ _ _ hn).mono fun _ h => h.elim
        · exact fun e _ => hn e
      refine .bind (.mapError hassign) fun ⟨n, middle⟩ hm => ?_
      rw [result_mapError_eq_ok] at hm
      rw [← (Numbering.assign_eq_ok hm).2] at hn
      exact .bind (numberAll_fails hrest hn) fun _ _ => .pure _

end Schema

end OntologySchema
