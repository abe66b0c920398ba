import OntologySchema.Proofs.Schema.Counting

/-!
# Numbers that are handed out twice

A numbering remembers who was the first to have a number. A number that somebody has is handed out all the
same, and one warning names the first who has it and the one who gets it. So the warnings of a message are
told by its fields from top to bottom (`repeats`), and there are none just when all numbers are different.

The step is one call for a number, `Remembers.assign`: what a numbering remembers is all that was handed out, in
order, and a look-up in it finds the first. Everything else that is logged for a message is about something else
(`Quiet`).
-/

namespace OntologySchema

/-- The warning that `second`, a field of `message`, has the number that `first` was the first to have. -/
def Log.collision (message : String) (number : Nat) (first second : String) : Log.Event where
  level := .warn
  message := "Field number collision"
  fields := [("message", .text message), ("number", .number number), ("first", .text first),
    ("second", .text second)]

/-- The event warns of a number that two fields have. -/
def Log.Event.isCollision (e : Log.Event) : Bool :=
  e.level = .warn && e.message = "Field number collision"

@[simp] theorem Log.isCollision_collision (message : String) (number : Nat) (first second : String) :
    (Log.collision message number first second).isCollision = true := by
  simp [Log.collision, Log.Event.isCollision]

theorem Log.exists_isCollision_iff {events : List Log.Event} :
    (∃ e ∈ events, e.isCollision = true) ↔ events.filter Log.Event.isCollision ≠ [] := by
  rw [Ne, List.filter_eq_nil_iff]
  push Not
  rfl

/-! ### Attempts that log no such warning -/

namespace Attempt

variable {ε ε' α β : Type}

/-- The warnings of numbers that two fields have. -/
def collisions (x : Attempt ε α) : List Log.Event := x.events.filter Log.Event.isCollision

theorem collisions_bind_of_ok {x : Attempt ε α} {f : α → Attempt ε β} {a : α} (h : x.result = .ok a) :
    (x >>= f).collisions = x.collisions ++ (f a).collisions := by
  rw [collisions, events_bind_of_ok h, List.filter_append]
  rfl

theorem collisions_mapError (f : ε → ε') (x : Attempt ε α) :
    (x.mapError f).collisions = x.collisions := rfl

/-- The attempt logs no such warning, whether or not it fails. -/
def Quiet (x : Attempt ε α) : Prop := x.collisions = []

namespace Quiet

theorem pure (a : α) : Quiet (Pure.pure a : Attempt ε α) := rfl

theorem throw (e : ε) : Quiet (MonadExcept.throw e : Attempt ε α) := rfl

theorem lift (r : Except ε α) : Quiet (ExceptT.mk (Pure.pure r : Logged (Except ε α))) := rfl

theorem tell {l : Log.Level} {m : String} {fs : List (String × Log.Value)}
    (h : m ≠ "Field number collision") : Quiet (Attempt.tell l m fs : Attempt ε Unit) := by
  have hother : Log.Event.isCollision ⟨l, m, fs⟩ = false := by simp [Log.Event.isCollision, h]
  exact List.filter_eq_nil_iff.2 fun e he => by rw [List.mem_singleton.1 he, hother]; simp

theorem bind {x : Attempt ε α} {f : α → Attempt ε β} (hx : Quiet x) (hf : ∀ a, Quiet (f a)) :
    Quiet (x >>= f) := by
  cases h : x.result with
  | ok a => rw [Quiet, collisions_bind_of_ok h, hx, hf a, List.append_nil]
  | error e => rw [Quiet, collisions, events_bind_of_error h]; exact hx

theorem mapError {f : ε → ε'} {x : Attempt ε α} (hx : Quiet x) : Quiet (x.mapError f) := hx

end Quiet

end Attempt

/-! ### Walks and drafts -/

namespace Ontology

open Attempt

variable (o : Ontology) (iri : String)

theorem quiet_walkUp (stop : OntClass → Bool) (start : OntClass) : Quiet (o.walkUp stop start) := by
  unfold walkUp
  have hdone : ∀ chain : List OntClass, Quiet (do
      Attempt.tell .trace "Walked up class hierarchy"
        [("start", .text start.iri), ("depth", .number chain.length)]
      return chain : Attempt HierarchyError (List OntClass)) :=
    fun _ => .bind (.tell (by decide)) fun _ => .pure _
  dsimp only
  split
  · exact hdone _
  · exact .bind (.tell (by decide)) fun _ => hdone _
  · exact .throw _

theorem quiet_ancestry : Quiet (o.ancestry iri) := .bind (.lift _) fun _ => o.quiet_walkUp _ _

theorem quiet_typeChain : Quiet (o.typeChain iri) := .bind (o.quiet_ancestry iri) fun _ => .pure _

theorem quiet_parentIris : Quiet (o.parentIris iri) := .bind (o.quiet_ancestry iri) fun _ => .pure _

theorem quiet_isAtOrBelowRoot : Quiet (o.isAtOrBelowRoot iri) := by
  unfold isAtOrBelowRoot
  split
  · exact .bind (.tell (by decide)) fun _ => .pure _
  · exact .bind (o.quiet_walkUp _ _) fun _ => .pure _

theorem quiet_inheritanceChain : Quiet (o.inheritanceChain iri) := by
  unfold inheritanceChain
  split
  · exact .bind (.tell (by decide)) fun _ => .pure _
  · exact o.quiet_walkUp _ _

theorem quiet_allDataProperties : Quiet (o.allDataProperties iri) :=
  .bind (o.quiet_inheritanceChain iri) fun _ => .pure _

theorem quiet_allObjectProperties : Quiet (o.allObjectProperties iri) :=
  .bind (o.quiet_inheritanceChain iri) fun _ => .pure _

theorem quiet_collectLeaves (path : List String) (parent : String) (todo : List String)
    (leaves : List OntClass) : Quiet (o.collectLeaves path parent todo leaves) := by
  fun_induction collectLeaves o path parent todo leaves with
  | case1 path parent leaves => exact .pure _
  | case2 path parent k todo leaves hf ih => exact .bind (.tell (by decide)) fun _ => ih
  | case3 path parent k todo leaves c hf hp => exact .throw _
  | case4 path parent k todo leaves c hf hp hc ihd ih => exact .bind ihd ih
  | case5 path parent k todo leaves c hf hp hc ih => exact ih

theorem quiet_leaves : Quiet (o.leaves iri) := .bind (.lift _) fun _ => o.quiet_collectLeaves _ _ _ _

end Ontology

namespace Schema

open Attempt

variable (s : SchemaOptions) (o : Ontology) (c : OntClass) (chain : List String)

theorem quiet_dataDraft (p : DataProperty) : Quiet (dataDraft s o c chain p) := by
  unfold dataDraft
  split
  · exact .bind (.tell (by decide)) fun _ => .pure _
  · exact .pure _

theorem quiet_objectDraft (p : ObjectProperty) : Quiet (objectDraft s o chain p) := by
  unfold objectDraft
  split
  · exact .pure _
  · exact .bind (o.quiet_isAtOrBelowRoot _) fun _ => .pure _

theorem quiet_variantDraft (leaf : OntClass) : Quiet (variantDraft o leaf) :=
  .bind (o.quiet_typeChain _) fun _ => .pure _

theorem quiet_messageOptions : Quiet (messageOptions s o c chain) := by
  unfold messageOptions
  split
  · exact .bind (o.quiet_parentIris _) fun _ => .pure _
  · exact .pure _

end Schema

/-! ### Calls -/

namespace Numbering

open Attempt

variable {message field : String} {key : List String} {numbering next : Numbering} {n : Nat}
variable {handed : List (Nat × String)}

/-- A number that somebody has is handed out with a warning. -/
theorem call_eq_of_held {counter : Nat} {first : String}
    (hn : FieldNumber.next numbering.hashed numbering.counter key = .ok (n, counter))
    (hheld : numbering.holders.lookup n = some first) :
    numbering.call message field key =
      ⟨(.ok n, { numbering with counter }), [Log.collision message n first field]⟩ := by
  unfold call
  rw [hn]
  dsimp only
  rw [hheld]
  rfl

/-- What there is to report when the number `n` is handed out to a field, after `handed`. -/
def report (message : String) (handed : List (Nat × String)) (n : Nat) (field : String) :
    List Log.Event :=
  match handed.lookup n with
  | none => []
  | some first => [Log.collision message n first field]

theorem events_assign (hn : (numbering.assign message field key).result = .ok (n, next)) :
    (numbering.assign message field key).events = report message numbering.holders n field := by
  obtain ⟨hnext, -⟩ := assign_eq_ok hn
  rw [events_assign_eq_events_call]
  unfold report
  cases hheld : numbering.holders.lookup n with
  | none => rw [call_eq_of_free hnext hheld]; rfl
  | some first => rw [call_eq_of_held hnext hheld]

/-- Who gets a number has it unless somebody has it already. -/
theorem lookup_holders_of_assign
    (hn : (numbering.assign message field key).result = .ok (n, next)) (k : Nat) :
    next.holders.lookup k = (numbering.holders.lookup k).or ([(n, field)].lookup k) := by
  obtain ⟨hnext, -⟩ := assign_eq_ok hn
  rw [result_assign, value_call, hnext] at hn
  have hholders := congrArg (·.2.holders) (Except.ok.inj hn)
  dsimp only at hholders
  rw [← hholders]
  cases hheld : numbering.holders.lookup n with
  | none =>
    by_cases hk : k = n
    · simp [hk, hheld]
    · simp [List.lookup_cons, beq_false_of_ne hk]
  | some first =>
    by_cases hk : k = n
    · simp [hk, hheld]
    · simp [List.lookup_cons, beq_false_of_ne hk]

/-- The numbering knows who was the first to have each number of those that were handed out. -/
def Remembers (handed : List (Nat × String)) (numbering : Numbering) : Prop :=
  ∀ n, numbering.holders.lookup n = handed.lookup n

theorem remembers_fresh (hash : Bool) : Remembers [] (fresh hash) := fun _ => rfl

/-- One call: what it hands out is reported if somebody has it, and is remembered. -/
theorem Remembers.assign (h : Remembers handed numbering)
    (hn : (numbering.assign message field key).result = .ok (n, next)) :
    (numbering.assign message field key).events = report message handed n field ∧
      Remembers (handed ++ [(n, field)]) next := by
  refine ⟨?_, fun k => ?_⟩
  · rw [events_assign hn, report, report, h n]
  · rw [lookup_holders_of_assign hn k, h k, List.lookup_append]

theorem lookup_eq_none_iff : handed.lookup n = none ↔ ∀ x ∈ handed, x.1 ≠ n := by
  rw [List.lookup_eq_none_iff]
  exact ⟨fun h x hx he => by simpa [he] using h x hx, fun h x hx => by simpa using (h x hx).symm⟩

theorem report_eq_nil_iff : report message handed n field = [] ↔ ∀ x ∈ handed, x.1 ≠ n := by
  rw [← lookup_eq_none_iff, report]
  cases handed.lookup n <;> simp

/-- Of those who have a number the first is reported. -/
theorem report_first {earlier later : List (Nat × String)} {first : String}
    (hearlier : ∀ x ∈ earlier, x.1 ≠ n) :
    report message (earlier ++ (n, first) :: later) n field =
      [Log.collision message n first field] := by
  rw [report, List.lookup_append, lookup_eq_none_iff.2 hearlier, List.lookup_cons_self]
  rfl

theorem filter_report (message : String) (handed : List (Nat × String)) (n : Nat) (field : String) :
    (report message handed n field).filter Log.Event.isCollision =
      report message handed n field := by
  unfold report
  split <;> simp

/-- What a numbering by hashing is like after it has handed out some numbers. -/
structure Hashing (handed : List (Nat × String)) (numbering : Numbering) : Prop where
  hashed : numbering.hashed = true
  counter_eq : numbering.counter = 0
  remembers : Remembers handed numbering

theorem hashing_fresh : Hashing [] (fresh true) := ⟨rfl, rfl, remembers_fresh true⟩

/-- One call hands out the number of the key, reports if somebody has it, and goes on hashing. -/
theorem Hashing.assign (h : Hashing handed numbering) (message field : String) (key : List String) :
    ∃ next, (numbering.assign message field key).result = .ok (FieldNumber.hashed key, next) ∧
      (numbering.assign message field key).events =
        report message handed (FieldNumber.hashed key) field ∧
      Hashing (handed ++ [(FieldNumber.hashed key, field)]) next := by
  have hnumber : FieldNumber.next numbering.hashed numbering.counter key =
      .ok (FieldNumber.hashed key, 0) := by
    rw [h.hashed, h.counter_eq]
    rfl
  obtain ⟨next, hn, hhashed, hcounter⟩ := exists_assign message field hnumber
  obtain ⟨hevents, hremembers⟩ := h.remembers.assign hn
  exact ⟨next, hn, hevents, hhashed.trans h.hashed, hcounter, hremembers⟩

/-- A call for the number of a field: what it returned, what it logged, and the counter after it. -/
structure Call where
  field : String
  key : List String
  returned : Except NumbersExhausted Nat
  events : List Log.Event
  counter : Nat

/-- What a call for a hashed number hands out. -/
def Call.handedOut (call : Call) : Nat × String := (FieldNumber.hashed call.key, call.field)

/-- The calls for the numbers of fields, which are given with their keys, one after the other. -/
def calls (message : String) (numbering : Numbering) : List (String × List String) → List Call
  | [] => []
  | (field, key) :: rest =>
    { field, key
      returned := (numbering.assign message field key).result.map (·.1)
      events := (numbering.assign message field key).events
      counter := (numbering.after message (field, key)).counter } ::
      calls message (numbering.after message (field, key)) rest

theorem map_calls (message : String) (numbering : Numbering) (fields : List (String × List String)) :
    (calls message numbering fields).map (fun call => (call.field, call.key)) = fields := by
  induction fields generalizing numbering with
  | nil => rfl
  | cons f fields ih => rw [calls, List.map_cons, ih]

/-- Any calls: each returns the number of its key, and reports who had it after all calls before. -/
theorem Hashing.calls {message : String} : ∀ {fields : List (String × List String)}
    {handed : List (Nat × String)} {numbering : Numbering}, Hashing handed numbering →
    ∀ {before later : List Call} {call : Call},
      calls message numbering fields = before ++ call :: later →
      call.returned = .ok (FieldNumber.hashed call.key) ∧ call.counter = 0 ∧
        call.events = report message (handed ++ before.map Call.handedOut)
          (FieldNumber.hashed call.key) call.field
  | [], _, _, _, before, _, _, hrun => by
    cases before <;> cases hrun
  | (field, key) :: fields, handed, numbering, h, before, later, c, hrun => by
    obtain ⟨next, hn, hevents, hnext⟩ := h.assign message field key
    have hafter : numbering.after message (field, key) = next := after_eq_of_assign hn
    rw [Numbering.calls, hafter] at hrun
    cases before with
    | nil =>
      cases hrun
      refine ⟨by rw [hn]; rfl, hnext.counter_eq, ?_⟩
      rw [hevents, List.map_nil, List.append_nil]
    | cons b before =>
      rw [List.cons_append] at hrun
      obtain ⟨rfl, htail⟩ := List.cons.inj hrun
      have hcall := hnext.calls htail
      rwa [List.append_assoc, List.singleton_append] at hcall

section HashingCalls

variable {fields : List (String × List String)} {before later : List Call} {call : Call}

/-- Whether a number was returned before is seen from what was handed out. -/
theorem returned_ne_iff (hrun : calls message (fresh true) fields = before ++ call :: later) :
    (∀ b ∈ before, b.returned ≠ call.returned) ↔
      ∀ x ∈ before.map Call.handedOut, x.1 ≠ FieldNumber.hashed call.key := by
  rw [List.forall_mem_map, (hashing_fresh.calls hrun).1]
  refine forall₂_congr fun b hb => not_congr ?_
  obtain ⟨earlier, between, rfl⟩ := List.append_of_mem hb
  rw [List.append_assoc, List.cons_append] at hrun
  rw [(hashing_fresh.calls hrun).1]
  exact ⟨fun h => Except.ok.inj h, fun h => congrArg Except.ok h⟩

/-- A call warns just when its number was returned before. -/
theorem exists_isCollision_call (hrun : calls message (fresh true) fields = before ++ call :: later) :
    (∃ e ∈ call.events, e.isCollision = true) ↔ ∃ b ∈ before, b.returned = call.returned := by
  obtain ⟨-, -, hevents⟩ := hashing_fresh.calls hrun
  rw [Log.exists_isCollision_iff, hevents, filter_report, Ne, report_eq_nil_iff, List.nil_append,
    ← returned_ne_iff hrun]
  push Not
  rfl

/-- It names the first that returned it. -/
theorem events_call_of_first (hrun : calls message (fresh true) fields = before ++ call :: later)
    {earlier between : List Call} {first : Call} (hbefore : before = earlier ++ first :: between)
    (hfirst : first.returned = call.returned)
    (hearlier : ∀ b ∈ earlier, b.returned ≠ call.returned) :
    call.events = [Log.collision message (FieldNumber.hashed call.key) first.field call.field] := by
  obtain ⟨hreturned, -, hevents⟩ := hashing_fresh.calls hrun
  rw [hbefore, List.append_assoc, List.cons_append] at hrun
  obtain ⟨hreturnedFirst, -⟩ := hashing_fresh.calls hrun
  have hnumber : FieldNumber.hashed first.key = FieldNumber.hashed call.key :=
    Except.ok.inj (hreturnedFirst.symm.trans (hfirst.trans hreturned))
  rw [← hfirst, returned_ne_iff hrun, hnumber] at hearlier
  rw [hevents, hbefore, List.nil_append, List.map_append, List.map_cons, Call.handedOut, hnumber]
  exact report_first hearlier

end HashingCalls

end Numbering

/-! ### Messages -/

/-- What is handed out for a field. -/
def Field.handedOut (f : Field) : Nat × String := (f.number, f.shape.name)

/-- The warnings that there are when the fields of a message get their numbers from top to bottom, after some
numbers were handed out. -/
def repeats (message : String) : List (Nat × String) → List Field → List Log.Event
  | _, [] => []
  | handed, f :: fields =>
    Numbering.report message handed f.number f.shape.name ++
      repeats message (handed ++ [f.handedOut]) fields

theorem repeats_append (message : String) (handed : List (Nat × String)) (fields rest : List Field) :
    repeats message handed (fields ++ rest) =
      repeats message handed fields ++ repeats message (handed ++ fields.map Field.handedOut) rest := by
  induction fields generalizing handed with
  | nil => simp [repeats]
  | cons f fields ih => simp [repeats, ih]

/-- There is no warning just when all numbers are different. -/
theorem repeats_eq_nil_iff (message : String) (handed : List (Nat × String)) (fields : List Field) :
    repeats message handed fields = [] ↔
      (∀ f ∈ fields, ∀ x ∈ handed, x.1 ≠ f.number) ∧ (fields.map (·.number)).Nodup := by
  induction fields generalizing handed with
  | nil => simp [repeats]
  | cons f fields ih =>
    rw [repeats, List.append_eq_nil_iff, Numbering.report_eq_nil_iff, ih, List.forall_mem_cons,
      List.map_cons, List.nodup_cons]
    simp only [List.forall_mem_append, List.forall_mem_singleton, Field.handedOut, List.mem_map]
    grind

namespace Schema

open Attempt
open OntologySchema.Numbering (Remembers report filter_report remembers_fresh)

variable {s : SchemaOptions} {o : Ontology} {c : OntClass} {m : Message} {schema : Schema}
variable {α : Type} {message : String} {draft : α → Attempt HierarchyError (Option Draft)}

/-- Where drafting is quiet, the warnings of a numbering are those of its fields. -/
theorem collisions_numberAll (hdraft : ∀ i, Quiet (draft i)) : ∀ {items : List α}
    {handed : List (Nat × String)} {numbering next : Numbering} {fields : List Field},
    Remembers handed numbering →
    (numberAll message draft items numbering).result = .ok (fields, next) →
    (numberAll message draft items numbering).collisions = repeats message handed fields ∧
      Remembers (handed ++ fields.map Field.handedOut) next
  | [], handed, _, _, _, hh, h => by
    cases h
    exact ⟨rfl, by rwa [List.map_nil, List.append_nil]⟩
  | item :: items, handed, numbering, _, _, hh, h => by
    rcases numberAll_cons_eq_ok h with ⟨hd, hr⟩ | ⟨d, n, middle, rest, hd, hn, hr, rfl⟩
    · rw [numberAll, collisions_bind_of_ok (result_mapError_eq_ok.2 hd), (hdraft item).mapError]
      exact collisions_numberAll hdraft hh hr
    · obtain ⟨hevents, hmiddle⟩ := hh.assign hn
      obtain ⟨hrest, hnext⟩ := collisions_numberAll hdraft hmiddle hr
      have hassign : (numbering.assign message d.shape.name d.key).collisions =
          report message handed n d.shape.name := by rw [Attempt.collisions, hevents, filter_report]
      constructor
      · rw [numberAll, collisions_bind_of_ok (result_mapError_eq_ok.2 hd), (hdraft item).mapError]
        dsimp only
        rw [collisions_bind_of_ok (result_mapError_eq_ok.2 hn), collisions_mapError, hassign]
        dsimp only
        rw [collisions_bind_of_ok hr, hrest, List.nil_append]
        exact congrArg (report message handed n d.shape.name ++ ·) (List.append_nil _)
      · rwa [List.append_assoc] at hnext

theorem collisions_numberAll_fresh (hdraft : ∀ i, Quiet (draft i)) {items : List α} {hash : Bool}
    {next : Numbering} {fields : List Field}
    (h : (numberAll message draft items (.fresh hash)).result = .ok (fields, next)) :
    (numberAll message draft items (.fresh hash)).collisions = repeats message [] fields ∧
      Remembers (fields.map Field.handedOut) next :=
  collisions_numberAll hdraft (remembers_fresh hash) h

theorem collisions_union {variants : List Field}
    (h : (union s o c).result = .ok (.union variants)) :
    (union s o c).collisions = repeats c.name [] variants := by
  obtain ⟨leaves, _, _, hl, hbody, hv⟩ := union_eq_ok h
  cases hbody
  obtain ⟨hnumbered, -⟩ := collisions_numberAll_fresh (quiet_variantDraft o) hv
  rw [union, collisions_bind_of_ok (result_mapError_eq_ok.2 hl), (o.quiet_leaves c.iri).mapError,
    collisions_bind_of_ok (result_tell ..), Quiet.tell (by decide), collisions_bind_of_ok hv,
    hnumbered]
  exact List.append_nil _

theorem collisions_record (r : RecordParts s o c) :
    (record s o c).collisions = repeats c.name [] (r.dataFields ++ r.objectFields) := by
  obtain ⟨hdata, hmiddle⟩ := collisions_numberAll_fresh (quiet_dataDraft s o c r.names) r.dataFields_eq
  obtain ⟨hobject, -⟩ := collisions_numberAll (quiet_objectDraft s o r.names) hmiddle r.objectFields_eq
  rw [record, collisions_bind_of_ok (result_mapError_eq_ok.2 r.names_eq),
    (o.quiet_typeChain c.iri).mapError, collisions_bind_of_ok (result_mapError_eq_ok.2 r.options_eq),
    (quiet_messageOptions s o c r.names).mapError,
    collisions_bind_of_ok (result_mapError_eq_ok.2 r.data_eq),
    (o.quiet_allDataProperties c.iri).mapError, collisions_bind_of_ok r.dataFields_eq, hdata]
  dsimp only
  rw [collisions_bind_of_ok (result_mapError_eq_ok.2 r.object_eq),
    (o.quiet_allObjectProperties c.iri).mapError, collisions_bind_of_ok r.objectFields_eq, hobject,
    repeats_append]
  exact congrArg (repeats c.name [] r.dataFields ++ ·) (List.append_nil _)

/-- The warnings that rendering a message logs are those of its fields. -/
theorem collisions_messageOf (h : (messageOf s o c).result = .ok m) :
    (messageOf s o c).collisions = repeats c.name [] m.fields := by
  rw [messageOf_eq] at h ⊢
  obtain ⟨body, hb, h⟩ := result_bind_eq_ok.1 h
  cases h
  rw [collisions_bind_of_ok hb]
  refine (List.append_nil _).trans ?_
  split at hb
  · next habstract =>
    obtain ⟨_, variants, _, -, rfl, -⟩ := union_eq_ok hb
    rw [if_pos habstract]
    exact collisions_union hb
  · next hconcrete =>
    obtain ⟨r, rfl⟩ := record_eq_ok hb
    rw [if_neg hconcrete]
    exact collisions_record r

/-- A message has a number twice just when rendering it logs a warning. -/
theorem not_nodup_iff (h : (messageOf s o c).result = .ok m) :
    ¬(m.fields.map (·.number)).Nodup ↔ ∃ e ∈ (messageOf s o c).events, e.isCollision = true := by
  have hnil : (messageOf s o c).collisions = [] ↔ (m.fields.map (·.number)).Nodup := by
    rw [collisions_messageOf h, repeats_eq_nil_iff]
    exact and_iff_right fun _ _ _ hx => nomatch hx
  rw [← hnil, Log.exists_isCollision_iff, collisions]

/-- What a schema is made of is logged class by class. -/
theorem collisions_ofOntology (h : (ofOntology s o).result = .ok schema) :
    (ofOntology s o).collisions =
      o.classes.values.flatMap fun c => (messageOf s o c).collisions := by
  have hm := result_mapM_eq_ok.2 (forall₂_messages h)
  rw [ofOntology, collisions_bind_of_ok hm, collisions_bind_of_ok (result_tell ..),
    Quiet.tell (by decide), Attempt.collisions, events_mapM hm, List.filter_flatMap]
  exact List.append_nil _

/-- In any calls for hashed numbers, each returns the number of its key and leaves the counter at 0. It warns
just when a call before it returned the same number, and then it names the first that did and itself. And a
message of a schema has a number twice just when there is a warning in what rendering it logs. -/
theorem collisions_reported :
    (∀ (message : String) (fields : List (String × List String)),
      (Numbering.calls message (.fresh true) fields).map (fun call => (call.field, call.key)) = fields ∧
      ∀ before call later, Numbering.calls message (.fresh true) fields = before ++ call :: later →
        call.returned = .ok (FieldNumber.hashed call.key) ∧ call.counter = 0 ∧
        ((∃ e ∈ call.events, e.isCollision = true) ↔ ∃ b ∈ before, b.returned = call.returned) ∧
        ((∀ b ∈ before, b.returned ≠ call.returned) → call.events = []) ∧
        ∀ earlier first between, before = earlier ++ first :: between →
          first.returned = call.returned → (∀ b ∈ earlier, b.returned ≠ call.returned) →
          call.events =
            [Log.collision message (FieldNumber.hashed call.key) first.field call.field]) ∧
      ∀ (s : SchemaOptions) (o : Ontology) (schema : Schema), (ofOntology s o).result = .ok schema →
        (ofOntology s o).collisions =
          o.classes.values.flatMap (fun c => (messageOf s o c).collisions) ∧
        ∀ c m, (c, m) ∈ o.classes.values.zip schema.messages →
          (¬(m.fields.map (·.number)).Nodup ↔
            ∃ e ∈ (messageOf s o c).events, e.isCollision = true) := by
  refine ⟨fun message fields => ⟨Numbering.map_calls message _ fields, fun before call later hrun => ?_⟩,
    fun s o schema h => ⟨collisions_ofOntology h, fun c m hm =>
      not_nodup_iff (messageOf_of_mem_zip h hm)⟩⟩
  obtain ⟨hreturned, hcounter, hevents⟩ := Numbering.hashing_fresh.calls hrun
  refine ⟨hreturned, hcounter, Numbering.exists_isCollision_call hrun, fun hnew => ?_,
    fun _ _ _ => Numbering.events_call_of_first hrun⟩
  rw [hevents, Numbering.report_eq_nil_iff, List.nil_append]
  exact (Numbering.returned_ne_iff hrun).1 hnew

/-- The third call for one key names the first, and not the second, which has the number as well. -/
theorem collisions_reported_thrice :
    ∃ first second third, Numbering.calls "A" (.fresh true)
        [("b", ["A", "B"]), ("bs", ["A", "B"]), ("has_b", ["A", "B"])] = [first, second, third] ∧
      first.returned = third.returned ∧ second.returned = third.returned ∧
      third.events = [Log.collision "A" (FieldNumber.hashed ["A", "B"]) "b" "has_b"] := by
  obtain ⟨hcalls, -⟩ := collisions_reported
  obtain ⟨-, hrun⟩ := hcalls "A" [("b", ["A", "B"]), ("bs", ["A", "B"]), ("has_b", ["A", "B"])]
  obtain ⟨hfirst, -⟩ := hrun [] _ _ rfl
  obtain ⟨hsecond, -⟩ := hrun [_] _ _ rfl
  obtain ⟨hthird, -, -, -, hnames⟩ := hrun [_, _] _ _ rfl
  have hagain := hfirst.trans hthird.symm
  exact ⟨_, _, _, rfl, hagain, hsecond.trans hthird.symm,
    hnames [] _ _ rfl hagain fun _ hb => nomatch hb⟩

end Schema

end OntologySchema
