import OntologySchema.Proofs.Schema.Stability

/-!
# The range of field numbers

Protocol buffers reserve the numbers from 19000 on, and counting stops short of them. Hashing does so for
all remainders but one: a hash is reduced modulo 19000 and one is added, so the remainder 18999 gives the
first of the reserved numbers (`hashed_eq_reservedFrom_iff`). There is no other way to a reserved number
(`number_range`), but this one is open: the names of a class and a property may have such a hash
(`reserved_number_in_schema`).

Every number in a schema was handed out in a call for one, so what holds of all calls holds of the schema.
-/

namespace OntologySchema

namespace FieldNumber

variable {hash : Bool} {counter after n : Nat} {key : List String}

/-- What is left of the hash of a key when it is reduced. -/
def remainder (key : List String) : Nat := (XXH64.hash (keyBytes key)).toNat % reservedFrom

theorem remainder_lt (key : List String) : remainder key < reservedFrom :=
  Nat.mod_lt _ (by decide)

theorem hashed_eq_remainder (key : List String) : hashed key = remainder key + 1 := rfl

/-- A hashed number is reserved for one remainder only. -/
theorem hashed_eq_reservedFrom_iff : hashed key = reservedFrom ↔ remainder key = 18999 := by
  rw [hashed_eq_remainder]
  exact Nat.succ_inj

/-- The range of what one call hands out. -/
theorem next_range (h : next hash counter key = .ok (n, after)) :
    1 ≤ n ∧ n ≤ reservedFrom ∧ (n = reservedFrom ↔ hash = true ∧ remainder key = 18999) := by
  cases hash with
  | true =>
    obtain ⟨rfl, -⟩ : hashed key = n ∧ counter = after := Prod.ext_iff.1 (Except.ok.inj h)
    rw [hashed_eq_reservedFrom_iff, hashed_eq_remainder]
    exact ⟨Nat.succ_pos _, remainder_lt key, fun hr => ⟨rfl, hr⟩, fun hr => hr.2⟩
  | false =>
    rw [next_counted] at h
    split at h
    · next hlt =>
      cases h
      refine ⟨Nat.succ_pos _, Nat.le_of_lt hlt, fun he => ?_, fun hr => (nomatch hr.1)⟩
      exact absurd he (Nat.ne_of_lt hlt)
    · cases h

/-- The number `n` comes from a call for one. -/
def HandedOut (hash : Bool) (n : Nat) : Prop :=
  ∃ counter key after, next hash counter key = .ok (n, after)

end FieldNumber

namespace Schema

open Attempt FieldNumber

variable {s : SchemaOptions} {o : Ontology} {c : OntClass} {m : Message} {α : Type}
variable {message : String} {draft : α → Attempt HierarchyError (Option Draft)}

theorem handedOut_of_numberAll : ∀ {items : List α} {numbering next : Numbering} {fields : List Field},
    (numberAll message draft items numbering).result = .ok (fields, next) →
    ∀ f ∈ fields, HandedOut numbering.hashed f.number
  | [], _, _, _, h, f, hf => by
    cases h
    cases hf
  | item :: items, numbering, _, _, h, f, hf => by
    rcases numberAll_cons_eq_ok h with ⟨_, hr⟩ | ⟨d, n, middle, rest, _, hn, hr, rfl⟩
    · exact handedOut_of_numberAll hr f hf
    · obtain ⟨hnext, hhashed⟩ := Numbering.assign_eq_ok hn
      rcases List.mem_cons.1 hf with rfl | hf
      · exact ⟨numbering.counter, d.key, middle.counter, hnext⟩
      · exact hhashed ▸ handedOut_of_numberAll hr f hf

theorem handedOut_of_messageOf (h : (messageOf s o c).result = .ok m) :
    ∀ f ∈ m.fields, HandedOut s.hashedNumbers f.number := by
  intro f hf
  by_cases hc : c.children = []
  · obtain ⟨r, rfl⟩ := exists_recordParts h hc
    rcases List.mem_append.1 hf with hf | hf
    · exact handedOut_of_numberAll r.dataFields_eq f hf
    · have hhanded := handedOut_of_numberAll r.objectFields_eq f hf
      rwa [hashed_of_numberAll r.dataFields_eq] at hhanded
  · obtain ⟨-, _, variants, _, _, hbody, hnumbered⟩ := messageOf_eq_union h hc
    rw [Message.fields, hbody] at hf
    exact handedOut_of_numberAll hnumbered f hf

/-- Every number that is handed out is one of 1, 2, ..., 19000, and it is 19000 just when it is hashed and
the hash leaves the remainder 18999. So the numbers in a schema are never above 19000, and below it if they
are counted. -/
theorem number_range (hash : Bool) (counter : Nat) (key : List String) (s : SchemaOptions)
    (o : Ontology) :
    (∀ n after, next hash counter key = .ok (n, after) →
        1 ≤ n ∧ n ≤ 19000 ∧ (n = 19000 ↔ hash = true ∧ remainder key = 18999)) ∧
      ∀ schema, (ofOntology s o).result = .ok schema → ∀ m ∈ schema.messages, ∀ f ∈ m.fields,
        1 ≤ f.number ∧ f.number ≤ 19000 ∧ (f.number = 19000 → s.hashedNumbers = true) := by
  refine ⟨fun n after h => next_range h, fun schema h m hm f hf => ?_⟩
  obtain ⟨c, -, hmessage⟩ := exists_of_forall₂ (forall₂_messages h).flip hm
  obtain ⟨_, _, _, hnext⟩ := handedOut_of_messageOf hmessage f hf
  obtain ⟨hpos, hle, hreserved⟩ := next_range hnext
  exact ⟨hpos, hle, fun he => (hreserved.1 he).1⟩

/-- A class and a data property whose names have a hash with the remainder 18999. -/
def unlucky : Document where
  declarations := [{ class? := some { iri := some "urn:/A" } }]
  axioms :=
    [{ classes := [{ iri := some "urn:/A" }]
       dataValue := [{ property := { iri := some "urn:/lpx" }, literal := "string" }] }]

/-- A number that is reserved is handed out, and gets into a schema. -/
theorem reserved_number_in_schema :
    next true 0 ["A", "lpx"] = .ok (19000, 0) ∧ ∃ schema,
      (ofOntology {} (Ontology.ofDocument "" unlucky).value).result = .ok schema ∧
        ∃ m ∈ schema.messages, ∃ f ∈ m.fields, f.number = 19000 := by
  have hnumber : hashed ["A", "lpx"] = 19000 := by decide +kernel
  refine ⟨by rw [next, if_pos rfl, hnumber], ?_⟩
  let p : DataProperty := { iri := "urn:/lpx", type := "string", name := "lpx", owner := "urn:/A" }
  let a : OntClass := { iri := "urn:/A", name := "A", dataProperties := [p] }
  have hvalue : (Ontology.ofDocument "" unlucky).value = Ontology.insert {} a := by decide +kernel
  have hw := Ontology.wellFormed_ofDocument "" unlucky
  have ha := Ontology.acyclic_of_rank hw.keyed (fun _ => 0) (by decide +kernel)
  rw [hvalue] at hw ha ⊢
  obtain ⟨schema, h⟩ := exists_ofOntology (s := {}) hw ha rfl
  obtain ⟨m, hmem, hm⟩ := exists_of_forall₂ (forall₂_messages h) (a := a) (by decide +kernel)
  have hnames : ((Ontology.insert {} a).typeChain "urn:/A").result = .ok ["A"] := by cbv
  have hdata : ((Ontology.insert {} a).allDataProperties "urn:/A").result = .ok [p] := by cbv
  obtain ⟨f, hf⟩ := exists_hasDataField hm rfl hdata (p := p)
    (mem_shownData.2 ⟨by decide, by decide⟩)
  refine ⟨schema, h, m, hmem, f, ?_, ?_⟩
  · obtain ⟨_, _, hzip⟩ := hf
    exact (List.of_mem_zip hzip).2
  · rw [number_of_hasDataField rfl hm rfl hnames hf]
    exact hnumber

end Schema

end OntologySchema
