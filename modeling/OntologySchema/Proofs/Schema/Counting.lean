import Mathlib
import OntologySchema.Proofs.Schema.Failure

/-!
# Counted numbers

Where numbers are counted, the fields of a message are numbered 1, 2, 3, ... from top to bottom. Which
fields there are does not depend on how they are numbered, so the counted schema is told by the hashed
one: it has the same messages, each with its fields counted anew (`Message.counted`), if each of them
has numbers enough; otherwise there is none, and the counter has reached the bound
(`result_ofOntology_ascending`).

The numbering of one message is followed call by call. `Counted k` says what it is like after `k` fields
were asked for, whether they were given a number or not; one more call takes it to `Counted (k + 1)`.
-/

namespace OntologySchema

/-! ### Calls -/

namespace Numbering

open Attempt

variable {message field : String} {key : List String} {numbering : Numbering}

/-- A number that nobody holds is handed out without a word. -/
theorem call_eq_of_free {n counter : Nat}
    (hn : FieldNumber.next numbering.hashed numbering.counter key = .ok (n, counter))
    (hfree : numbering.holders.lookup n = none) :
    numbering.call message field key =
      pure (.ok n, { numbering with counter, holders := (n, field) :: numbering.holders }) := by
  unfold call
  rw [hn]
  dsimp only
  rw [hfree]

/-- A number that is refused is refused without a word, and the numbering is as it was. -/
theorem call_eq_of_refused {e : NumbersExhausted}
    (hn : FieldNumber.next numbering.hashed numbering.counter key = .error e) :
    numbering.call message field key = pure (.error e, numbering) := by
  unfold call
  rw [hn]

/-- The numbering after a call for one more field. -/
def after (message : String) (numbering : Numbering) (call : String × List String) : Numbering :=
  (numbering.call message call.1 call.2).value.2

theorem after_eq_of_assign {n : Nat} {next : Numbering}
    (h : (numbering.assign message field key).result = .ok (n, next)) :
    numbering.after message (field, key) = next := by
  rw [result_assign] at h
  unfold after
  cases hn : (numbering.call message field key).value.1 with
  | error e => rw [hn] at h; cases h
  | ok n' => rw [hn] at h; exact congrArg Prod.snd (Except.ok.inj h)

/-- What a numbering that counts is like after `k` calls. -/
structure Counted (k : Nat) (numbering : Numbering) : Prop where
  not_hashed : numbering.hashed = false
  counter_eq : numbering.counter = min k (reservedFrom - 1)
  /-- Nobody holds a number that was not counted yet. -/
  held_le : ∀ x ∈ numbering.holders, x.1 ≤ numbering.counter

theorem counted_fresh : Counted 0 (fresh false) where
  not_hashed := rfl
  counter_eq := rfl
  held_le := fun _ h => nomatch h

namespace Counted

variable {k : Nat}

/-- The next number is free. -/
theorem lookup_next (h : Counted k numbering) :
    numbering.holders.lookup (numbering.counter + 1) = none := by
  rw [List.lookup_eq_none_iff]
  intro x hx
  have hle := h.held_le x hx
  have hne : numbering.counter + 1 ≠ x.1 := by omega
  simpa using hne

/-- The calls for which there are numbers get the number of the call. -/
theorem call_eq_of_lt (h : Counted k numbering) (hk : k + 1 < reservedFrom) :
    numbering.call message field key =
      pure (.ok (k + 1), { numbering with
        counter := k + 1, holders := (k + 1, field) :: numbering.holders }) := by
  have hcounter : numbering.counter = k := by
    rw [h.counter_eq]
    omega
  refine call_eq_of_free ?_ (hcounter ▸ h.lookup_next)
  rw [h.not_hashed, FieldNumber.next_counted, hcounter, if_pos hk]

/-- The calls after that are refused. -/
theorem call_eq_of_le (h : Counted k numbering) (hk : reservedFrom ≤ k + 1) :
    numbering.call message field key = pure (.error ⟨reservedFrom⟩, numbering) := by
  have hcounter : numbering.counter + 1 = reservedFrom := by
    rw [h.counter_eq]
    have : reservedFrom = 19000 := rfl
    omega
  refine call_eq_of_refused ?_
  rw [h.not_hashed, FieldNumber.next_counted, hcounter, if_neg (Nat.lt_irrefl _)]

/-- One more call. -/
theorem after (h : Counted k numbering) (message : String) (call : String × List String) :
    Counted (k + 1) (numbering.after message call) := by
  unfold Numbering.after
  rcases Nat.lt_or_ge (k + 1) reservedFrom with hk | hk
  · rw [h.call_eq_of_lt hk]
    refine ⟨h.not_hashed, ?_, fun x hx => ?_⟩
    · change k + 1 = _
      omega
    · rcases List.mem_cons.1 hx with rfl | hx
      · exact Nat.le_refl _
      · have hle := h.held_le x hx
        have hcounter := h.counter_eq
        change x.1 ≤ k + 1
        omega
  · rw [h.call_eq_of_le hk]
    refine ⟨h.not_hashed, ?_, h.held_le⟩
    change numbering.counter = _
    rw [h.counter_eq]
    omega

/-- Any calls. -/
theorem foldl_after (message : String) : ∀ (calls : List (String × List String))
    {k : Nat} {numbering : Numbering}, Counted k numbering →
      Counted (k + calls.length) (calls.foldl (Numbering.after message) numbering)
  | [], _, _, h => h
  | call :: calls, k, _, h => by
    rw [List.foldl_cons, List.length_cons, Nat.add_comm calls.length, ← Nat.add_assoc]
    exact foldl_after message calls (h.after message call)

end Counted

end Numbering

/-! ### Fields -/

/-- The fields, numbered by counting from `n`. -/
def countedFrom (n : Nat) : List Field → List Field
  | [] => []
  | f :: fields => { f with number := n } :: countedFrom (n + 1) fields

@[simp] theorem length_countedFrom (n : Nat) (fields : List Field) :
    (countedFrom n fields).length = fields.length := by
  induction fields generalizing n with
  | nil => rfl
  | cons f fields ih => simp [countedFrom, ih]

theorem number_countedFrom (n : Nat) (fields : List Field) :
    (countedFrom n fields).map (·.number) = List.range' n fields.length := by
  induction fields generalizing n with
  | nil => rfl
  | cons f fields ih => simp [countedFrom, ih, List.range'_succ]

theorem countedFrom_append (n : Nat) (fields rest : List Field) :
    countedFrom n (fields ++ rest) =
      countedFrom n fields ++ countedFrom (n + fields.length) rest := by
  induction fields generalizing n with
  | nil => rfl
  | cons f fields ih =>
    rw [List.cons_append, countedFrom, countedFrom, ih, List.cons_append, List.length_cons]
    congr 3
    omega

/-- A message with its fields numbered by counting from one. -/
def Message.counted (m : Message) : Message :=
  { m with
    body :=
      match m.body with
      | .union variants => .union (countedFrom 1 variants)
      | .record options fields => .record options (countedFrom 1 fields) }

theorem Message.fields_counted (m : Message) : m.counted.fields = countedFrom 1 m.fields := by
  obtain ⟨name, comments, body⟩ := m
  cases body <;> rfl

namespace Schema

open Attempt

variable {s : SchemaOptions} {o : Ontology} {c : OntClass} {m : Message} {schema : Schema}
variable {α : Type} {message : String} {draft : α → Attempt HierarchyError (Option Draft)}

/-- However a list of items was numbered, counting numbers the same fields one after the other, as long
as there are numbers. -/
theorem numberAll_counted : ∀ {items : List α} {numbering next : Numbering} {fields : List Field},
    (numberAll message draft items numbering).result = .ok (fields, next) →
    ∀ {counting : Numbering}, counting.hashed = false → counting.counter < reservedFrom →
      (counting.counter + fields.length < reservedFrom → ∃ last,
        (numberAll message draft items counting).result =
            .ok (countedFrom (counting.counter + 1) fields, last) ∧
          last.hashed = false ∧ last.counter = counting.counter + fields.length) ∧
      (reservedFrom ≤ counting.counter + fields.length →
        (numberAll message draft items counting).result = .error (.numbers ⟨reservedFrom⟩))
  | [], _, _, _, h, counting, hc, hlt => by
    cases h
    exact ⟨fun _ => ⟨counting, rfl, hc, rfl⟩, fun hle => absurd hlt (Nat.not_lt_of_le hle)⟩
  | item :: items, _, _, _, h, counting, hc, hlt => by
    rcases numberAll_cons_eq_ok h with ⟨hd, hr⟩ | ⟨d, n, _, rest, hd, _, hr, rfl⟩
    · rw [result_numberAll_cons_none hd]
      exact numberAll_counted hr hc hlt
    · have hnext := FieldNumber.next_counted counting.counter d.key
      rw [← hc] at hnext
      rcases Nat.lt_or_ge (counting.counter + 1) reservedFrom with hnumber | hnumber
      · -- the draft gets the next number, and the others are counted on from there
        rw [if_pos hnumber] at hnext
        obtain ⟨middle, hn, hhashed, hcounter⟩ :=
          Numbering.exists_assign message d.shape.name hnext
        have ih := numberAll_counted hr (hhashed.trans hc) (hcounter ▸ hnumber)
        rw [hcounter, Nat.add_assoc, Nat.add_comm 1] at ih
        rw [result_numberAll_cons_some hd hn, List.length_cons]
        constructor
        · intro hlen
          obtain ⟨last, hrest, hlast⟩ := ih.1 hlen
          exact ⟨last, by rw [hrest]; rfl, hlast⟩
        · intro hlen
          rw [ih.2 hlen]
          rfl
      · rw [if_neg (Nat.not_lt_of_le hnumber)] at hnext
        have hbound : counting.counter + 1 = reservedFrom := Nat.le_antisymm hlt hnumber
        rw [result_numberAll_cons_error hd (Numbering.assign_eq_error.2 hnext), hbound]
        refine ⟨fun hlen => ?_, fun _ => rfl⟩
        rw [List.length_cons] at hlen
        omega

/-- Counting from the start: the fields are numbered from one, if there are numbers for all. -/
theorem numberAll_counted_fresh {items : List α} {numbering next : Numbering} {fields : List Field}
    (h : (numberAll message draft items numbering).result = .ok (fields, next)) :
    (fields.length < reservedFrom → ∃ last,
        (numberAll message draft items (.fresh false)).result = .ok (countedFrom 1 fields, last) ∧
          last.hashed = false ∧ last.counter = fields.length) ∧
      (reservedFrom ≤ fields.length →
        (numberAll message draft items (.fresh false)).result =
          .error (.numbers ⟨reservedFrom⟩)) := by
  have hcounted := numberAll_counted h (Numbering.hashed_fresh false) (by decide)
  rwa [Numbering.counter_fresh, Nat.zero_add, Nat.zero_add] at hcounted

/-! ### Messages -/

/-- How fields are numbered does not matter to what is drafted. -/
theorem drafts_ascending (s : SchemaOptions) :
    messageOptions s.ascending = messageOptions s ∧ dataDraft s.ascending = dataDraft s ∧
      objectDraft s.ascending = objectDraft s := ⟨rfl, rfl, rfl⟩

theorem fresh_ascending (s : SchemaOptions) :
    Numbering.fresh s.ascending.hashedNumbers = .fresh false := rfl

theorem result_union_ascending {body : MessageBody} (h : (union s o c).result = .ok body) :
    ∃ variants, body = .union variants ∧
      (union s.ascending o c).result =
        if variants.length < reservedFrom then .ok (.union (countedFrom 1 variants))
        else .error (.numbers ⟨reservedFrom⟩) := by
  obtain ⟨leaves, variants, _, hl, rfl, hv⟩ := union_eq_ok h
  obtain ⟨henough, hover⟩ := numberAll_counted_fresh hv
  refine ⟨variants, rfl, ?_⟩
  rw [union, result_bind_of_ok (result_mapError_eq_ok.2 hl), result_bind_of_ok (result_tell ..)]
  split
  · next hlen =>
    obtain ⟨_, hcount, _⟩ := henough hlen
    exact result_bind_of_ok hcount
  · next hlen => exact result_bind_of_error (hover (Nat.le_of_not_lt hlen))

theorem result_record_ascending {body : MessageBody} (h : (record s o c).result = .ok body) :
    ∃ options fields, body = .record options fields ∧
      (record s.ascending o c).result =
        if fields.length < reservedFrom then .ok (.record options (countedFrom 1 fields))
        else .error (.numbers ⟨reservedFrom⟩) := by
  obtain ⟨r, rfl⟩ := record_eq_ok h
  obtain ⟨henough, hover⟩ := numberAll_counted_fresh r.dataFields_eq
  refine ⟨r.options, r.dataFields ++ r.objectFields, rfl, ?_⟩
  obtain ⟨hoptions, hdata, hobject⟩ := drafts_ascending s
  rw [record, hoptions, hdata, hobject, fresh_ascending, result_bind_of_ok (result_mapError_eq_ok.2 r.names_eq),
    result_bind_of_ok (result_mapError_eq_ok.2 r.options_eq),
    result_bind_of_ok (result_mapError_eq_ok.2 r.data_eq), List.length_append]
  rcases Nat.lt_or_ge r.dataFields.length reservedFrom with hdata | hdata
  · obtain ⟨middle, hcount, hhashed, hcounter⟩ := henough hdata
    obtain ⟨henough, hover⟩ := numberAll_counted r.objectFields_eq hhashed (hcounter ▸ hdata)
    rw [hcounter] at henough hover
    rw [result_bind_of_ok hcount]
    dsimp only
    rw [result_bind_of_ok (result_mapError_eq_ok.2 r.object_eq)]
    split
    · next hlen =>
      obtain ⟨_, hcount, _⟩ := henough hlen
      rw [countedFrom_append, Nat.add_comm 1]
      exact result_bind_of_ok hcount
    · next hlen => exact result_bind_of_error (hover (Nat.le_of_not_lt hlen))
  · rw [if_neg (by omega)]
    exact result_bind_of_error (hover hdata)

/-- However the message of a class was numbered, counting numbers the same fields from one, if there are
numbers for all. -/
theorem result_messageOf_ascending (h : (messageOf s o c).result = .ok m) :
    (messageOf s.ascending o c).result =
      if m.fields.length < reservedFrom then .ok m.counted
      else .error (.numbers ⟨reservedFrom⟩) := by
  rw [messageOf_eq] at h ⊢
  obtain ⟨body, hb, h⟩ := result_bind_eq_ok.1 h
  cases h
  by_cases habstract : c.isAbstract = true
  · rw [if_pos habstract] at hb ⊢
    obtain ⟨variants, rfl, hu⟩ := result_union_ascending hb
    by_cases hlen : variants.length < reservedFrom
    · rw [result_bind, hu, if_pos hlen]
      exact (if_pos hlen).symm
    · rw [result_bind, hu, if_neg hlen]
      exact (if_neg hlen).symm
  · rw [if_neg habstract] at hb ⊢
    obtain ⟨options, fields, rfl, hr⟩ := result_record_ascending hb
    by_cases hlen : fields.length < reservedFrom
    · rw [result_bind, hr, if_pos hlen]
      exact (if_pos hlen).symm
    · rw [result_bind, hr, if_neg hlen]
      exact (if_neg hlen).symm

/-! ### Schemas -/

/-- A schema with the fields of each message numbered by counting from one. -/
def counted (schema : Schema) : Schema :=
  { schema with messages := schema.messages.map Message.counted }

/-- Counting fails for one reason only. -/
theorem ofOntology_ascending_fails (h : (ofOntology s o).result = .ok schema) :
    (ofOntology s.ascending o).FailsOnly (· = .numbers ⟨reservedFrom⟩) := by
  refine .bind (.mapM fun c hc e he => ?_) fun _ _ => .bind .tell fun _ _ => .pure _
  obtain ⟨m, -, hm⟩ := exists_of_forall₂ (forall₂_messages h) hc
  rw [result_messageOf_ascending hm] at he
  split at he <;> cases he
  rfl

/-- The counted schema is the hashed one with all fields counted, if there are numbers for all. -/
theorem result_ofOntology_ascending (h : (ofOntology s o).result = .ok schema) :
    (ofOntology s.ascending o).result =
      if ∀ m ∈ schema.messages, m.fields.length < reservedFrom then .ok schema.counted
      else .error (.numbers ⟨reservedFrom⟩) := by
  obtain ⟨hmessages, hheader, hpreamble⟩ := ofOntology_eq_ok_iff.1 h
  split
  · next henough =>
    refine ofOntology_eq_ok_iff.2 ⟨List.forall₂_map_right_iff.2 ?_, hheader, hpreamble⟩
    refine forall₂_imp_of_mem hmessages fun c _ m hmem hm => ?_
    rw [result_messageOf_ascending hm, if_pos (henough m hmem)]
  · next hover =>
    cases hresult : (ofOntology s.ascending o).result with
    | error e => rw [ofOntology_ascending_fails h e hresult]
    | ok schema' =>
      -- a message with too many fields would be there
      refine absurd (fun m hm => ?_) hover
      obtain ⟨c, hc, hmessage⟩ := exists_of_forall₂ hmessages.flip hm
      obtain ⟨m', hm'⟩ := exists_ofOntology_iff.1 ⟨schema', hresult⟩ c hc
      by_contra hlen
      rw [result_messageOf_ascending hmessage, if_neg hlen] at hm'
      cases hm'

/-- Where there is a schema with hashed numbers, there is one with counted numbers just when no message has
more than 18999 fields; if one has more, the counter reaches 19000. In a counted schema each message is
numbered 1, 2, ..., n from top to bottom. Of the calls for numbers that a message makes, the first 18999
get the numbers 1, 2, ..., 18999; all others are refused at 19000 and leave the counter at 18999. No call
has anything to report. -/
theorem ascending_numbers (s : SchemaOptions) (o : Ontology) :
    (∀ schema, (ofOntology { s with hashedNumbers := true } o).result = .ok schema →
      ((∃ schema', (ofOntology s.ascending o).result = .ok schema') ↔
          ∀ m ∈ schema.messages, m.fields.length ≤ 18999) ∧
        (¬ (∀ m ∈ schema.messages, m.fields.length ≤ 18999) →
          (ofOntology s.ascending o).result = .error (.numbers ⟨19000⟩)) ∧
        ∀ schema', (ofOntology s.ascending o).result = .ok schema' →
          schema' = schema.counted ∧
            ∀ m ∈ schema'.messages, m.fields.map (·.number) = List.range' 1 m.fields.length) ∧
      ∀ (message : String) (calls : List (String × List String)) (field : String)
        (key : List String),
          let numbering := calls.foldl (Numbering.after message) (.fresh false)
          (numbering.assign message field key).events = [] ∧
          (calls.length + 1 ≤ 18999 → ∃ next,
            (numbering.assign message field key).result = .ok (calls.length + 1, next)) ∧
          (18999 < calls.length + 1 →
            (numbering.assign message field key).result = .error ⟨19000⟩ ∧
              (numbering.after message (field, key)).counter = 18999) := by
  refine ⟨fun schema h => ?_, fun message calls field key => ?_⟩
  · have hresult : (ofOntology s.ascending o).result = _ :=
      result_ofOntology_ascending (s := { s with hashedNumbers := true }) h
    by_cases henough : ∀ m ∈ schema.messages, m.fields.length < reservedFrom
    · have hle : ∀ m ∈ schema.messages, m.fields.length ≤ 18999 :=
        fun m hm => Nat.le_of_lt_succ (henough m hm)
      rw [hresult, if_pos henough]
      refine ⟨⟨fun _ => hle, fun _ => ⟨_, rfl⟩⟩, fun hover => absurd hle hover, ?_⟩
      intro schema' hok
      cases hok
      refine ⟨rfl, fun m' hm' => ?_⟩
      obtain ⟨m, -, rfl⟩ := List.mem_map.1 hm'
      rw [Message.fields_counted, number_countedFrom, length_countedFrom]
    · have hover : ¬ ∀ m ∈ schema.messages, m.fields.length ≤ 18999 :=
        fun hle => henough fun m hm => Nat.lt_succ_of_le (hle m hm)
      rw [hresult, if_neg henough]
      refine ⟨⟨fun ⟨_, hok⟩ => (nomatch hok), fun hle => absurd hle hover⟩, fun _ => rfl, ?_⟩
      exact fun _ hok => nomatch hok
  · intro numbering
    have hcounted := Numbering.counted_fresh.foldl_after message calls
    rw [Nat.zero_add] at hcounted
    rcases Nat.lt_or_ge (calls.length + 1) reservedFrom with hlt | hge
    · rw [Numbering.result_assign, Numbering.events_assign_eq_events_call, hcounted.call_eq_of_lt hlt]
      exact ⟨rfl, fun _ => ⟨_, rfl⟩, fun hlater => absurd hlt (Nat.not_lt_of_le hlater)⟩
    · rw [Numbering.result_assign, Numbering.events_assign_eq_events_call, hcounted.call_eq_of_le hge]
      refine ⟨rfl, fun hle => absurd hge (Nat.not_le_of_lt (Nat.lt_succ_of_le hle)), fun _ => ?_⟩
      refine ⟨rfl, ?_⟩
      rw [(hcounted.after message (field, key)).counter_eq]
      exact Nat.min_eq_right (Nat.le_of_succ_le hge)

/-- One class with two data properties. -/
def twoProperties : Document where
  declarations := [{ class? := some { iri := some "urn:a" } }]
  axioms := ["urn:p", "urn:q"].map fun property =>
    { classes := [{ iri := some "urn:a" }]
      dataValue := [{ property := { iri := some property }, literal := "string" }] }

theorem ascending_numbers_twoProperties :
    (∃ schema schema',
      (ofOntology {} (Ontology.ofDocument "" twoProperties).value).result = .ok schema ∧
        (ofOntology ({} : SchemaOptions).ascending
          (Ontology.ofDocument "" twoProperties).value).result = .ok schema' ∧
        schema' = schema.counted ∧
        schema'.messages.map (fun m => m.fields.map (·.number)) = [[1, 2]]) ∧
      (((List.replicate 18999 ("p", ["A", "p"])).foldl (Numbering.after "A") (.fresh false)).assign
        "A" "q" ["A", "q"]).result = .error ⟨19000⟩ := by
  have hnumbers := ascending_numbers {} (Ontology.ofDocument "" twoProperties).value
  have hw := Ontology.wellFormed_ofDocument "" twoProperties
  have ha := Ontology.acyclic_of_rank hw.keyed (fun _ => 0) (by decide +kernel)
  obtain ⟨schema, h⟩ := exists_ofOntology (s := {}) hw ha rfl
  have hvalue : (Ontology.ofDocument "" twoProperties).value = Ontology.insert {}
      { iri := "urn:a", name := "urn:a"
        dataProperties := ["urn:p", "urn:q"].map fun iri =>
          { iri, type := "string", name := iri, owner := "urn:a" } } := by
    decide +kernel
  have hascending : (ofOntology ({} : SchemaOptions).ascending
      (Ontology.ofDocument "" twoProperties).value).result.map
        (fun schema => schema.messages.map fun m => m.fields.map (·.number)) = .ok [[1, 2]] := by
    rw [hvalue]
    cbv
  cases hschema' : (ofOntology ({} : SchemaOptions).ascending
      (Ontology.ofDocument "" twoProperties).value).result with
  | error e =>
    rw [hschema'] at hascending
    cases hascending
  | ok schema' =>
    rw [hschema'] at hascending
    refine ⟨⟨schema, schema', h, rfl, ?_, Except.ok.inj hascending⟩, ?_⟩
    · exact ((hnumbers.1 schema h).2.2 schema' hschema').1
    · exact ((hnumbers.2 "A" (List.replicate 18999 ("p", ["A", "p"])) "q" ["A", "q"]).2.2
        (by rw [List.length_replicate]; omega)).1

end Schema

end OntologySchema
