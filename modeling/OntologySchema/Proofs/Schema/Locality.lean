import Mathlib
import OntologySchema.Proofs.ByteOrder
import OntologySchema.Proofs.Hierarchy.Frame
import OntologySchema.Proofs.Schema.Messages
import OntologySchema.Schema.Text

/-!
# Messages are local

The message of a class is made from what its walks meet. So two ontologies that agree on a region of
IRIs which no class of the region leaves have the same messages for the classes of the region
(`messageOf_of_agreeOn`). In particular, a class that no class of an ontology names changes no message
when it is put into the ontology: the text of the schema is the same but for one block, the message of
the new class, at the place of its IRI (`insert_unnamed`).
-/

namespace OntologySchema

/-- No class of the ontology stands at the IRI `k` or names it. -/
structure Ontology.Unnamed (o : Ontology) (k : String) : Prop where
  absent : o.find? k = none
  parent : ∀ c ∈ o.classes.values, c.parent ≠ some k
  child : ∀ c ∈ o.classes.values, k ∉ c.children
  target : ∀ c ∈ o.classes.values, ∀ p ∈ c.objectProperties, p.target ≠ k

/-- What no class of an ontology names is outside of what its walks see. -/
theorem Ontology.Unnamed.agreeOn_insert {o : Ontology} {x : OntClass} (hk : o.Keyed)
    (hx : o.Unnamed x.iri) : AgreeOn (· ≠ x.iri) o (o.insert x) where
  root_eq := rfl
  prefixes_eq := rfl
  find?_eq := fun {k} hne => by
    rw [find?, insert, Table.find?_insert, if_neg hne]
    rfl
  closed := fun {k c} hne hc => by
    have hmem := Table.mem_values_of_find? hc
    refine ⟨hk k c hc ▸ hne, fun hp => ?_, fun hq => ?_, fun hp => hx.target c hmem _ hp⟩
    · rintro rfl
      exact hx.parent c hmem hp
    · rintro rfl
      exact hx.child c hmem hq

namespace Schema

open Attempt Ontology

variable {R : String → Prop} {s : SchemaOptions} {o o' : Ontology} {c : OntClass} {m : Message}
variable {schema : Schema} {names : List String}

/-! ### Two ontologies that agree -/

theorem numberAll_congr {α : Type} {message : String}
    {draft draft' : α → Attempt HierarchyError (Option Draft)} : ∀ {items : List α},
    (∀ i ∈ items, draft' i = draft i) → ∀ numbering : Numbering,
      numberAll message draft' items numbering = numberAll message draft items numbering
  | [], _, _ => rfl
  | item :: items, h, numbering => by
    obtain ⟨hitem, hitems⟩ := List.forall_mem_cons.1 h
    rw [numberAll, numberAll, hitem]
    refine bind_congr_of_result fun d? _ => ?_
    cases d? with
    | none => exact numberAll_congr hitems numbering
    | some d =>
      refine bind_congr_of_result fun ⟨n, middle⟩ _ => ?_
      dsimp only
      rw [numberAll_congr hitems middle]

theorem dataDraft_of_agreeOn (h : AgreeOn R o o') : dataDraft s o' c names = dataDraft s o c names := by
  funext p
  simp only [dataDraft, semanticOptions, h.prefixes_eq]

theorem objectDraft_of_agreeOn (h : AgreeOn R o o') {p : ObjectProperty} (hp : R p.target) :
    objectDraft s o' names p = objectDraft s o names p := by
  simp only [objectDraft, semanticOptions, h.prefixes_eq, h.isAtOrBelowRoot_eq hp]

theorem variantDraft_of_agreeOn (h : AgreeOn R o o') {leaf : OntClass} (hl : R leaf.iri) :
    variantDraft o' leaf = variantDraft o leaf := by
  rw [variantDraft, variantDraft, h.typeChain_eq hl]

theorem messageOptions_of_agreeOn (h : AgreeOn R o o') (hc : R c.iri) :
    messageOptions s o' c names = messageOptions s o c names := by
  simp only [messageOptions, h.prefixes_eq, h.parentIris_eq hc]

theorem union_of_agreeOn (h : AgreeOn R o o') (hk : o.Keyed) (hc : R c.iri) :
    union s o' c = union s o c := by
  rw [union, union, h.leaves_eq hc]
  refine bind_congr_of_result fun leaves hl => bind_congr_of_result fun _ _ => ?_
  rw [numberAll_congr fun leaf hleaf => variantDraft_of_agreeOn h
    (h.region_of_mem_leaves hk hc (result_mapError_eq_ok.1 hl) hleaf)]

/-- A class of the region inherits only object properties whose targets are in the region. -/
theorem target_of_allObjectProperties (h : AgreeOn R o o') (hc : R c.iri)
    {object : List ObjectProperty} (hobject : (o.allObjectProperties c.iri).result = .ok object)
    {p : ObjectProperty} (hp : p ∈ object) : R p.target := by
  obtain ⟨chain, hchain, hobject⟩ := result_bind_eq_ok.1 hobject
  cases hobject
  obtain ⟨a, ha, hp⟩ := List.mem_flatMap.1 hp
  exact (h.namesOnly_of_inheritanceChain hc hchain a ha).target hp

theorem record_of_agreeOn (h : AgreeOn R o o') (hc : R c.iri) : record s o' c = record s o c := by
  rw [record, record, h.typeChain_eq hc, h.allDataProperties_eq hc, h.allObjectProperties_eq hc]
  refine bind_congr_of_result fun names _ => ?_
  rw [messageOptions_of_agreeOn h hc, dataDraft_of_agreeOn h]
  refine bind_congr_of_result fun options _ => bind_congr_of_result fun data _ => ?_
  refine bind_congr_of_result fun ⟨dataFields, numbering⟩ _ => ?_
  refine bind_congr_of_result fun object hobject => ?_
  rw [numberAll_congr fun p hp => objectDraft_of_agreeOn h
    (target_of_allObjectProperties h hc (result_mapError_eq_ok.1 hobject) (List.mem_mergeSort.1 hp))]

/-- Where two ontologies agree, they have the same messages. -/
theorem messageOf_of_agreeOn (h : AgreeOn R o o') (hk : o.Keyed) (hc : R c.iri) :
    messageOf s o' c = messageOf s o c := by
  rw [messageOf_eq, messageOf_eq, union_of_agreeOn h hk hc, record_of_agreeOn h hc]

/-! ### One class more -/

/-- The text of a schema, cut between two messages. -/
theorem text_eq_append {before after : List Message} (h : schema.messages = before ++ after) :
    schema.text = Text.unlines (schema.headLines ++ before.flatMap Message.lines) ++
      Text.unlines (after.flatMap Message.lines) := by
  rw [text, lines, h, List.flatMap_append, ← List.append_assoc, Text.unlines_append]

/-- The schema `schema'` is `schema` with one block more in its text: the message `m` of the class `x`,
after the messages of the classes of `o` with smaller IRIs, by their bytes, and before those of the
classes with larger IRIs. -/
structure IsInserted (s : SchemaOptions) (o : Ontology) (x : OntClass) (schema schema' : Schema)
    (before : List Message) (m : Message) (after : List Message) : Prop where
  messages_eq : schema.messages = before ++ after
  inserted_eq : schema' = { schema with messages := before ++ m :: after }
  message_eq : (messageOf s (o.insert x) x).result = .ok m
  placed : ∃ smaller larger, o.classes.values = smaller ++ larger ∧
    (∀ c ∈ smaller, Text.utf8 c.iri < Text.utf8 x.iri) ∧
    (∀ c ∈ larger, Text.utf8 x.iri < Text.utf8 c.iri) ∧
    List.Forall₂ (fun c m => (messageOf s o c).result = .ok m) smaller before ∧
    List.Forall₂ (fun c m => (messageOf s o c).result = .ok m) larger after
  text_eq : schema.text = Text.unlines (schema.headLines ++ before.flatMap Message.lines) ++
    Text.unlines (after.flatMap Message.lines)
  inserted_text_eq : schema'.text =
    Text.unlines (schema.headLines ++ before.flatMap Message.lines) ++ Text.unlines m.lines ++
      Text.unlines (after.flatMap Message.lines)

/-- The classes of an ontology around the place of an IRI that is not there. -/
theorem exists_values_insert (hk : o.Keyed) {x : OntClass} (hx : o.find? x.iri = none) :
    ∃ smaller larger, o.classes.values = smaller ++ larger ∧
      (o.insert x).classes.values = smaller ++ x :: larger ∧
      (∀ c ∈ smaller, Text.utf8 c.iri < Text.utf8 x.iri) ∧
      ∀ c ∈ larger, Text.utf8 x.iri < Text.utf8 c.iri := by
  obtain ⟨smaller, larger, hvalues, hinsert, hsmaller, hlarger⟩ :=
    Table.values_insert_of_fresh hx x
  refine ⟨smaller, larger, hvalues, hinsert, fun c hc => ?_, fun c hc => ?_⟩
  · obtain ⟨k, hlt, hf⟩ := hsmaller c hc
    exact Text.utf8_lt_utf8_iff.2 (hk k c hf ▸ hlt)
  · obtain ⟨k, hlt, hf⟩ := hlarger c hc
    exact Text.utf8_lt_utf8_iff.2 (hk k c hf ▸ hlt)

/-- A class that is not named changes the message of no other class. -/
theorem messageOf_insert (hk : o.Keyed) {x : OntClass} (hx : o.Unnamed x.iri)
    (hc : c ∈ o.classes.values) : messageOf s (o.insert x) c = messageOf s o c := by
  refine messageOf_of_agreeOn (hx.agreeOn_insert hk) hk ?_
  have hfind := hk.mem_values_iff.1 hc
  rintro heq
  rw [heq, hx.absent] at hfind
  cases hfind

theorem isInserted_of_ofOntology (hk : o.Keyed) {x : OntClass} (hx : o.Unnamed x.iri)
    {schema' : Schema} (h : (ofOntology s o).result = .ok schema)
    (h' : (ofOntology s (o.insert x)).result = .ok schema') :
    ∃ before m after, IsInserted s o x schema schema' before m after := by
  obtain ⟨smaller, larger, hvalues, hinsert, hsmaller, hlarger⟩ := exists_values_insert hk hx.absent
  obtain ⟨hm, hheader, hpreamble⟩ := ofOntology_eq_ok_iff.1 h
  obtain ⟨hm', hheader', hpreamble'⟩ := ofOntology_eq_ok_iff.1 h'
  rw [hvalues] at hm
  rw [hinsert] at hm'
  obtain ⟨before, after, hmessages, hbefore, hafter⟩ := forall₂_append_left hm
  obtain ⟨before', _, hmessages', hbefore', hrest⟩ := forall₂_append_left hm'
  obtain ⟨m, after', hx', hafter', rfl⟩ := List.forall₂_cons_left_iff.1 hrest
  -- each of the other classes has the message that it had
  have hsame : ∀ {classes : List OntClass} {messages messages' : List Message},
      classes ⊆ o.classes.values →
      List.Forall₂ (fun c m => (messageOf s o c).result = .ok m) classes messages →
      List.Forall₂ (fun c m => (messageOf s (o.insert x) c).result = .ok m) classes messages' →
      messages' = messages := by
    intro classes messages messages' hsub hold hnew
    have hnew' := forall₂_imp_of_mem hnew fun c hc m _ hm => messageOf_insert hk hx (hsub hc) ▸ hm
    exact Except.ok.inj ((result_mapM_eq_ok.2 hnew').symm.trans (result_mapM_eq_ok.2 hold))
  obtain rfl := hsame (hvalues ▸ List.subset_append_left _ _) hbefore hbefore'
  obtain rfl := hsame (hvalues ▸ List.subset_append_right _ _) hafter hafter'
  have hschema' : schema' = { schema with messages := before' ++ m :: after' } := by
    rw [← hmessages', hheader, hpreamble, ← hheader']
    exact hpreamble' ▸ rfl
  refine ⟨before', m, after', hmessages, hschema', hx',
    ⟨smaller, larger, hvalues, hsmaller, hlarger, hbefore, hafter⟩, text_eq_append hmessages, ?_⟩
  rw [text_eq_append hmessages', hschema', List.flatMap_cons, Text.unlines_append m.lines,
    String.append_assoc]
  rfl

/-- Put a class into a keyed ontology that does not name it. If both ontologies have a schema, the text
of the new schema is that of the old one with one block more, the message of the class, at the place of
its IRI in the order of the bytes. If the old ontology has no schema, neither has the new one. -/
theorem insert_unnamed (s : SchemaOptions) {o : Ontology} {x : OntClass} (hk : o.Keyed)
    (hx : o.Unnamed x.iri) :
    (∀ schema schema', (ofOntology s o).result = .ok schema →
        (ofOntology s (o.insert x)).result = .ok schema' →
        ∃ before m after, IsInserted s o x schema schema' before m after) ∧
      ∀ e, (ofOntology s o).result = .error e →
        ∃ e', (ofOntology s (o.insert x)).result = .error e' := by
  refine ⟨fun schema schema' h h' => isInserted_of_ofOntology hk hx h h', fun e he => ?_⟩
  cases h' : (ofOntology s (o.insert x)).result with
  | error e' => exact ⟨e', rfl⟩
  | ok schema' =>
    -- the messages of the new schema would be there for the old one
    obtain ⟨smaller, larger, hvalues, hinsert, -⟩ := exists_values_insert hk hx.absent
    have hall := exists_ofOntology_iff.1 ⟨schema', h'⟩
    obtain ⟨schema, h⟩ : ∃ schema, (ofOntology s o).result = .ok schema := by
      refine exists_ofOntology_iff.2 fun c hc => ?_
      obtain ⟨m, hm⟩ := hall c (by
        rw [hinsert]
        rw [hvalues] at hc
        exact List.mem_append.2 ((List.mem_append.1 hc).imp id (List.mem_cons_of_mem _)))
      exact ⟨m, messageOf_insert hk hx hc ▸ hm⟩
    cases h.symm.trans he

/-- Two classes, of which neither names the other. -/
def apart : Ontology :=
  (Ontology.insert {} { iri := "urn:a", name := "A" }).insert { iri := "urn:c", name := "C" }

/-- A class between the two that names one of them. -/
def between : OntClass := { iri := "urn:b", name := "B", parent := some "urn:a" }

theorem insert_unnamed_apart : apart.Keyed ∧ apart.Unnamed between.iri ∧ ∃ schema schema',
    (ofOntology {} apart).result = .ok schema ∧
      (ofOntology {} (apart.insert between)).result = .ok schema' ∧
      ∃ before m after, IsInserted {} apart between schema schema' before m after ∧
        m.lines =
          ["", "// B is an entity class in our ontology. It can be instantiated and contains all of " ++
              "its properties as well of its implemented interfaces.", "message B \x7b",
            "\toption (owl.class).iri = \"urn:b\";", "\toption (owl.class).parent = \"urn:a\";",
            "\toption (owl.class).parent = \"owl:Thing\";", "\x7d"] := by
  have hempty : ({} : Ontology).Keyed := fun _ _ hc => nomatch hc
  have hk : apart.Keyed := (hempty.insert _).insert _
  have hx : apart.Unnamed between.iri :=
    ⟨by decide +kernel, by decide +kernel, by decide +kernel, by decide +kernel⟩
  have hsome : (ofOntology {} apart).result.map (fun _ => ()) = .ok () := by cbv
  have hsome' : (ofOntology {} (apart.insert between)).result.map (fun _ => ()) = .ok () := by cbv
  have hmessage : (messageOf {} (apart.insert between) between).result = .ok
      { name := "B", comments := []
        body := .record [.iri "urn:b", .parent "urn:a", .parent "owl:Thing"] [] } := by
    cbv
  obtain ⟨schema, h, -⟩ := exists_of_result_map hsome
  obtain ⟨schema', h', -⟩ := exists_of_result_map hsome'
  obtain ⟨before, m, after, hinserted⟩ := (insert_unnamed {} hk hx).1 schema schema' h h'
  refine ⟨hk, hx, schema, schema', h, h', before, m, after, hinserted, ?_⟩
  obtain rfl := Except.ok.inj (hmessage.symm.trans hinserted.message_eq)
  decide +kernel

end Schema

end OntologySchema
