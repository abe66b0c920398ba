import OntologySchema.Proofs.Hierarchy.Ascent
import OntologySchema.Proofs.Hierarchy.Descent
import OntologySchema.Proofs.Ontology.WellFormed
import OntologySchema.Proofs.Schema.Messages
import OntologySchema.Proofs.Schema.Numbering

/-!
# When there is no schema

A schema of a well-formed ontology fails for two reasons only: the parents of some class lead back to it,
or numbers are counted and have run out (`ofOntology_fails`). A cycle never goes unnoticed: each class on
it has the one below it among its children, so it is abstract, and the descent from it goes round the
cycle. So with hashed numbers there is a schema just when there is no cycle.
-/

namespace OntologySchema.Schema

open Attempt
open Relation (TransGen)

variable {s : SchemaOptions} {o : Ontology}

/-- The reasons for which a schema may fail. -/
def Expected (s : SchemaOptions) (o : Ontology) : SchemaError → Prop
  | .hierarchy e => o.CycleIn e
  | .numbers _ => s.hashedNumbers = false

theorem dataDraft_fails (c : OntClass) (chain : List String) (p : DataProperty) :
    (dataDraft s o c chain p).FailsOnly o.CycleIn := by
  unfold dataDraft
  split
  · exact .bind .tell fun _ _ => .pure _
  · exact .pure _

theorem objectDraft_fails (hk : o.Keyed) (chain : List String) (p : ObjectProperty) :
    (objectDraft s o chain p).FailsOnly o.CycleIn := by
  unfold objectDraft
  split
  · exact .pure _
  · exact .bind (Ontology.isAtOrBelowRoot_fails hk p.target) fun _ _ => .pure _

theorem messageOptions_fails (hk : o.Keyed) {c : OntClass} (hc : o.find? c.iri = some c)
    (chain : List String) : (messageOptions s o c chain).FailsOnly o.CycleIn := by
  unfold messageOptions
  split
  · exact .bind (Ontology.parentIris_fails hk hc) fun _ _ => .pure _
  · exact .pure _

/-- Counted numbers may run out, hashed ones do not. -/
theorem hashed_or_expected (s : SchemaOptions) (o : Ontology) {numbering : Numbering}
    (hn : numbering.hashed = s.hashedNumbers) :
    numbering.hashed = true ∨ ∀ e, Expected s o (.numbers e) := by
  cases hs : s.hashedNumbers with
  | true => exact .inl (hn.trans hs)
  | false => exact .inr fun _ => hs

theorem union_fails (hw : o.WellFormed) {c : OntClass} (hc : o.find? c.iri = some c) :
    (union s o c).FailsOnly (Expected s o) := by
  unfold union
  refine .bind (.mapError (Ontology.leaves_fails hw hc)) fun leaves hl => .bind .tell fun _ _ => ?_
  rw [result_mapError_eq_ok] at hl
  refine .bind (numberAll_fails (fun leaf hm => ?_) ?_) fun _ _ => .pure _
  · have hleaf := ((Ontology.mem_leaves_iff hw.keyed hl).1 hm).found
    exact .bind (Ontology.typeChain_fails hw.keyed hleaf) fun _ _ => .pure _
  · exact hashed_or_expected s o (Numbering.hashed_fresh _)

theorem record_fails (hk : o.Keyed) {c : OntClass} (hc : o.find? c.iri = some c) :
    (record s o c).FailsOnly (Expected s o) := by
  have hproperties : ∀ {α : Type} (own : OntClass → List α),
      (do return (← o.inheritanceChain c.iri).flatMap own : Attempt HierarchyError (List α)).FailsOnly
        o.CycleIn :=
    fun own => .bind (Ontology.inheritanceChain_fails hk c.iri) fun _ _ => .pure _
  unfold record
  refine .bind (.mapError (Ontology.typeChain_fails hk hc)) fun chain _ => ?_
  refine .bind (.mapError (messageOptions_fails hk hc chain)) fun _ _ => ?_
  refine .bind (.mapError (hproperties _)) fun data _ => ?_
  refine .bind (numberAll_fails (fun p _ => dataDraft_fails c chain p) ?_) fun ⟨_, numbering⟩ hn => ?_
  · exact hashed_or_expected s o (Numbering.hashed_fresh _)
  · refine .bind (.mapError (hproperties _)) fun object _ => ?_
    refine .bind (numberAll_fails (fun p _ => objectDraft_fails hk chain p) ?_) fun _ _ => .pure _
    exact hashed_or_expected s o ((hashed_of_numberAll hn).trans (Numbering.hashed_fresh _))

theorem messageOf_fails (hw : o.WellFormed) {c : OntClass} (hc : o.find? c.iri = some c) :
    (messageOf s o c).FailsOnly (Expected s o) := by
  rw [messageOf_eq]
  refine .bind ?_ fun _ _ => .pure _
  split
  · exact union_fails hw hc
  · exact record_fails hw.keyed hc

/-- The schema of a well-formed ontology fails by a cycle, or because counted numbers run out. -/
theorem ofOntology_fails (hw : o.WellFormed) : (ofOntology s o).FailsOnly (Expected s o) := by
  refine .bind (.mapM fun c hc => ?_) fun _ _ => .bind .tell fun _ _ => .pure _
  exact messageOf_fails hw (hw.keyed.mem_values_iff.1 hc)

/-- A well-formed ontology without cycles has a schema with hashed numbers. -/
theorem exists_ofOntology (hw : o.WellFormed) (ha : o.Acyclic) (hs : s.hashedNumbers = true) :
    ∃ schema, (ofOntology s o).result = .ok schema := by
  refine (ofOntology_fails hw).exists_ok fun e he => ?_
  cases e with
  | hierarchy e => exact he.2 ha
  | numbers e => exact absurd (hs.symm.trans he) (by simp)

/-- An ontology that has a schema has no cycle. -/
theorem acyclic_of_ofOntology (hw : o.WellFormed) {schema : Schema}
    (h : (ofOntology s o).result = .ok schema) : o.Acyclic := by
  intro k hcycle
  have hdown : TransGen o.HasChild k k := hw.transGen_hasChild_iff.2 hcycle
  obtain ⟨q, ⟨c, _, hc, hq, _⟩, _⟩ := TransGen.head'_iff.1 hdown
  have hmem : c ∈ o.classes.values := Table.mem_values_iff.2 ⟨k, hc⟩
  obtain ⟨m, -, hm⟩ := exists_of_forall₂ (forall₂_messages h) hmem
  obtain ⟨-, leaves, _, _, hl, -⟩ := messageOf_eq_union hm (List.ne_nil_of_mem hq)
  refine (Ontology.gathers_of_leaves hl).not_cyclic hw.keyed (List.mem_singleton.2 ?_) hdown
  exact (hw.keyed k c hc).symm

/-- With hashed numbers, the ontology of a document has a schema just when the parents of no class lead
back to it; if those of some class do, the failure is a cycle, and there is no other failure. -/
theorem schema_ofDocument_iff_acyclic (root : String) (d : Document) (s : SchemaOptions)
    (hs : s.hashedNumbers = true) :
    ((∃ schema, (ofOntology s (Ontology.ofDocument root d).value).result = .ok schema) ↔
        (Ontology.ofDocument root d).value.Acyclic) ∧
      (¬ (Ontology.ofDocument root d).value.Acyclic → ∃ iri path,
        (ofOntology s (Ontology.ofDocument root d).value).result =
          .error (.hierarchy (.cycle iri path))) ∧
      ∀ e, (ofOntology s (Ontology.ofDocument root d).value).result = .error e →
        ∃ iri path, e = .hierarchy (.cycle iri path) := by
  have hw := Ontology.wellFormed_ofDocument root d
  set o := (Ontology.ofDocument root d).value
  have hcycle : ∀ e, (ofOntology s o).result = .error e → ∃ iri path,
      e = .hierarchy (.cycle iri path) := by
    intro e he
    have hexpected := ofOntology_fails hw e he
    cases e with
    | hierarchy e =>
      obtain ⟨⟨iri, path, rfl⟩, -⟩ := hexpected
      exact ⟨iri, path, rfl⟩
    | numbers e => exact absurd (hs.symm.trans hexpected) (by simp)
  refine ⟨⟨?_, fun ha => exists_ofOntology hw ha hs⟩, fun ha => ?_, hcycle⟩
  · rintro ⟨schema, h⟩
    exact acyclic_of_ofOntology hw h
  · cases h : (ofOntology s o).result with
    | ok schema => exact absurd (acyclic_of_ofOntology hw h) ha
    | error e =>
      obtain ⟨iri, path, rfl⟩ := hcycle e h
      exact ⟨iri, path, rfl⟩

/-- Two classes, each declared to be a subclass of the other. -/
def mutualParents : Document where
  declarations := ["urn:a", "urn:b"].map fun iri => { class? := some { iri := some iri } }
  axioms := [("urn:a", "urn:b"), ("urn:b", "urn:a")].map fun (child, parent) =>
    { classes := [{ iri := some child }, { iri := some parent }] }

theorem schema_mutualParents : ({} : SchemaOptions).hashedNumbers = true ∧ ∃ iri path,
    (ofOntology {} (Ontology.ofDocument "" mutualParents).value).result =
      .error (.hierarchy (.cycle iri path)) := by
  have hab : (Ontology.ofDocument "" mutualParents).value.HasParent "urn:a" "urn:b" :=
    Option.bind_eq_some_iff.1 (by decide +kernel)
  have hba : (Ontology.ofDocument "" mutualParents).value.HasParent "urn:b" "urn:a" :=
    Option.bind_eq_some_iff.1 (by decide +kernel)
  exact ⟨rfl, (schema_ofDocument_iff_acyclic "" mutualParents {} rfl).2.1
    fun ha => ha "urn:a" (.tail (.single hab) hba)⟩

end OntologySchema.Schema
