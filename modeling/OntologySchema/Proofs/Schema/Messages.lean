import OntologySchema.Proofs.Hierarchy.Links
import OntologySchema.Proofs.Outcome
import OntologySchema.Schema.OfOntology

/-!
# The messages of a schema

A schema that is there tells how each of its messages came to be: which walks were made for it, that
they had results, and what was numbered. What a union covers and what a record inherits is read off
from there.
-/

namespace OntologySchema.Schema

open Attempt

variable {s : SchemaOptions} {o : Ontology} {c : OntClass} {m : Message}

/-- A message is its body under the name of its class. -/
theorem messageOf_eq (s : SchemaOptions) (o : Ontology) (c : OntClass) :
    messageOf s o c = (if c.isAbstract then union s o c else record s o c) >>= fun body =>
      pure { name := c.name, comments := c.comments.flatMap Text.lines, body } := by
  unfold messageOf
  split <;> rfl

/-- A message has the name of its class. -/
theorem name_of_messageOf (h : (messageOf s o c).result = .ok m) : m.name = c.name := by
  rw [messageOf_eq] at h
  obtain ⟨_, _, h⟩ := result_bind_eq_ok.1 h
  cases h
  rfl

/-- A schema is its messages, those of the classes in their order, under its header and preamble. -/
theorem ofOntology_eq_ok_iff {schema : Schema} : (ofOntology s o).result = .ok schema ↔
    List.Forall₂ (fun c m => (messageOf s o c).result = .ok m) o.classes.values schema.messages ∧
      schema.header = s.header ∧
      schema.preamble = if s.semantic then .prefixes o.prefixes.entries else .typeNames := by
  rw [← result_mapM_eq_ok]
  constructor
  · intro h
    obtain ⟨messages, hm, h⟩ := result_bind_eq_ok.1 h
    obtain ⟨_, _, h⟩ := result_bind_eq_ok.1 h
    cases h
    exact ⟨hm, rfl, rfl⟩
  · rintro ⟨hm, hheader, hpreamble⟩
    rw [ofOntology, result_bind_of_ok hm, result_bind_of_ok (result_tell ..), result_pure,
      ← hheader, ← hpreamble]

/-- The messages of a schema are those of the classes, in their order. -/
theorem forall₂_messages {schema : Schema} (h : (ofOntology s o).result = .ok schema) :
    List.Forall₂ (fun c m => (messageOf s o c).result = .ok m) o.classes.values schema.messages :=
  (ofOntology_eq_ok_iff.1 h).1

/-- There is a schema just when each class has a message. -/
theorem exists_ofOntology_iff : (∃ schema, (ofOntology s o).result = .ok schema) ↔
    ∀ c ∈ o.classes.values, ∃ m, (messageOf s o c).result = .ok m := by
  rw [← exists_forall₂_iff]
  constructor
  · rintro ⟨schema, h⟩
    exact ⟨_, forall₂_messages h⟩
  · rintro ⟨messages, h⟩
    exact ⟨⟨_, _, messages⟩, ofOntology_eq_ok_iff.2 ⟨h, rfl, rfl⟩⟩

/-- The message at the place of a class is the message of the class. -/
theorem messageOf_of_mem_zip {schema : Schema} (h : (ofOntology s o).result = .ok schema)
    (hm : (c, m) ∈ o.classes.values.zip schema.messages) : (messageOf s o c).result = .ok m :=
  (List.forall₂_iff_zip.1 (forall₂_messages h)).2 hm

/-- Each class has a message of its name. -/
theorem exists_message_of_mem {schema : Schema} (h : (ofOntology s o).result = .ok schema)
    (hc : c ∈ o.classes.values) : ∃ m ∈ schema.messages, m.name = c.name := by
  obtain ⟨m, hm, hmessage⟩ := exists_of_forall₂ (forall₂_messages h) hc
  exact ⟨m, hm, name_of_messageOf hmessage⟩

/-- In a keyed ontology each message is that of the class which its IRI finds. -/
theorem forall₂_messages_of_keyed (hk : o.Keyed) {schema : Schema}
    (h : (ofOntology s o).result = .ok schema) :
    List.Forall₂ (fun c m => o.find? c.iri = some c ∧ (messageOf s o c).result = .ok m)
      o.classes.values schema.messages := by
  rw [List.forall₂_and_left]
  exact ⟨fun c hc => hk.mem_values_iff.1 hc, forall₂_messages h⟩

/-! ### Unions -/

/-- What the union of an abstract class is put together from. -/
theorem union_eq_ok {body : MessageBody} (h : (union s o c).result = .ok body) :
    ∃ leaves variants last, (o.leaves c.iri).result = .ok leaves ∧ body = .union variants ∧
      (numberAll c.name (variantDraft o) leaves (.fresh s.hashedNumbers)).result =
        .ok (variants, last) := by
  obtain ⟨leaves, hl, h⟩ := result_bind_eq_ok.1 h
  obtain ⟨_, _, h⟩ := result_bind_eq_ok.1 h
  obtain ⟨⟨variants, last⟩, hv, h⟩ := result_bind_eq_ok.1 h
  cases h
  exact ⟨leaves, variants, last, result_mapError_eq_ok.1 hl, rfl, hv⟩

/-- The message of an abstract class is a union over its leaves. -/
theorem messageOf_eq_union (h : (messageOf s o c).result = .ok m) (hc : c.children ≠ []) :
    m.name = c.name ∧ ∃ leaves variants numbering,
      (o.leaves c.iri).result = .ok leaves ∧ m.body = .union variants ∧
      (numberAll c.name (variantDraft o) leaves (.fresh s.hashedNumbers)).result =
        .ok (variants, numbering) := by
  rw [messageOf_eq, if_pos (Ontology.isAbstract_iff.2 hc)] at h
  obtain ⟨body, hb, h⟩ := result_bind_eq_ok.1 h
  cases h
  exact ⟨rfl, union_eq_ok hb⟩

/-! ### Records -/

/-- What the message of a class without children is put together from. -/
structure RecordParts (s : SchemaOptions) (o : Ontology) (c : OntClass) where
  /-- The display names of the class and its ancestors. -/
  names : List String
  options : List MessageOption
  data : List DataProperty
  object : List ObjectProperty
  dataFields : List Field
  objectFields : List Field
  /-- How far the numbering has come after the data properties. -/
  middle : Numbering
  last : Numbering
  names_eq : (o.typeChain c.iri).result = .ok names
  options_eq : (messageOptions s o c names).result = .ok options
  data_eq : (o.allDataProperties c.iri).result = .ok data
  object_eq : (o.allObjectProperties c.iri).result = .ok object
  dataFields_eq : (numberAll c.name (dataDraft s o c names) (data.mergeSort dataBefore)
    (.fresh s.hashedNumbers)).result = .ok (dataFields, middle)
  objectFields_eq : (numberAll c.name (objectDraft s o names) (object.mergeSort objectBefore)
    middle).result = .ok (objectFields, last)

theorem record_eq_ok {body : MessageBody} (h : (record s o c).result = .ok body) :
    ∃ r : RecordParts s o c, body = .record r.options (r.dataFields ++ r.objectFields) := by
  obtain ⟨names, hnames, h⟩ := result_bind_eq_ok.1 h
  obtain ⟨options, hoptions, h⟩ := result_bind_eq_ok.1 h
  obtain ⟨data, hdata, h⟩ := result_bind_eq_ok.1 h
  obtain ⟨⟨dataFields, middle⟩, hd, h⟩ := result_bind_eq_ok.1 h
  obtain ⟨object, hobject, h⟩ := result_bind_eq_ok.1 h
  obtain ⟨⟨objectFields, last⟩, ho, h⟩ := result_bind_eq_ok.1 h
  rw [result_mapError_eq_ok] at hnames hoptions hdata hobject
  cases h
  exact ⟨⟨names, options, data, object, dataFields, objectFields, middle, last, hnames, hoptions,
    hdata, hobject, hd, ho⟩, rfl⟩

/-- The message of a class without children is a record. -/
theorem exists_recordParts (h : (messageOf s o c).result = .ok m) (hc : c.children = []) :
    ∃ r : RecordParts s o c,
      m = { name := c.name, comments := c.comments.flatMap Text.lines
            body := .record r.options (r.dataFields ++ r.objectFields) } := by
  rw [messageOf_eq, if_neg (mt Ontology.isAbstract_iff.1 (not_not_intro hc))] at h
  obtain ⟨body, hb, h⟩ := result_bind_eq_ok.1 h
  cases h
  obtain ⟨r, rfl⟩ := record_eq_ok hb
  exact ⟨r, rfl⟩

/-- The message of a class without children has the fields of what it inherits: those of its data
properties and then those of its object properties, both sorted. -/
theorem messageOf_eq_record (h : (messageOf s o c).result = .ok m) (hc : c.children = []) :
    m.name = c.name ∧ ∃ ancestors chain options dataFields middle objectFields last,
      (o.ancestry c.iri).result = .ok ancestors ∧ (o.inheritanceChain c.iri).result = .ok chain ∧
      m.body = .record options (dataFields ++ objectFields) ∧
      (numberAll c.name (dataDraft s o c (ancestors.map (·.name)))
        ((chain.flatMap (·.dataProperties)).mergeSort dataBefore)
        (.fresh s.hashedNumbers)).result = .ok (dataFields, middle) ∧
      (numberAll c.name (objectDraft s o (ancestors.map (·.name)))
        ((chain.flatMap (·.objectProperties)).mergeSort objectBefore) middle).result =
          .ok (objectFields, last) := by
  obtain ⟨⟨names, options, data, object, dataFields, objectFields, middle, last, hnames, _, hdata,
    hobject, hd, ho⟩, rfl⟩ := exists_recordParts h hc
  obtain ⟨ancestors, hancestors, hnames⟩ := result_bind_eq_ok.1 hnames
  obtain ⟨chain, hchain, hdata⟩ := result_bind_eq_ok.1 hdata
  obtain ⟨chain', hchain', hobject⟩ := result_bind_eq_ok.1 hobject
  cases hnames
  cases hdata
  cases hobject
  obtain rfl : chain = chain' := Except.ok.inj (hchain.symm.trans hchain')
  exact ⟨rfl, ancestors, chain, options, dataFields, middle, objectFields, last, hancestors, hchain,
    rfl, hd, ho⟩

end OntologySchema.Schema
