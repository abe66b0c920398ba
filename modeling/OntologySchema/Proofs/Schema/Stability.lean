import Mathlib
import OntologySchema.Proofs.Schema.Fields

/-!
# Hashed numbers are stable

A hashed number is made from the display names along the ancestry of a class and, in a record, from one
name more: that of a data property, or that of the target of an object property. Nothing else enters it,
neither what is numbered before nor what else the ontology holds. So two runs over different ontologies,
with different options, give the same numbers to the same names.
-/

namespace OntologySchema.Schema

open Attempt

variable {s : SchemaOptions} {o : Ontology} {c : OntClass} {m : Message} {schema : Schema}

/-- In the message `m` of the abstract class `c`, the variant of the class `leaf` is `v`. -/
def HasVariant (o : Ontology) (c : OntClass) (m : Message) (leaf : OntClass) (v : Field) : Prop :=
  ∃ leaves, (o.leaves c.iri).result = .ok leaves ∧ (leaf, v) ∈ leaves.zip m.fields

/-! ### What a number is made from -/

theorem key_of_dataDraft {names : List String} {p : DataProperty} {d : Draft}
    (h : (dataDraft s o c names p).result = .ok (some d)) : d.key = names ++ [p.name] := by
  unfold dataDraft at h
  split at h
  · obtain ⟨_, _, h⟩ := result_bind_eq_ok.1 h
    cases h
  · cases h
    rfl

theorem key_of_objectDraft {names : List String} {p : ObjectProperty} {d : Draft}
    (h : (objectDraft s o names p).result = .ok (some d)) : d.key = names ++ [p.targetName] := by
  unfold objectDraft at h
  split at h
  · cases h
  · obtain ⟨_, _, h⟩ := result_bind_eq_ok.1 h
    cases h
    rfl

theorem key_of_variantDraft {leaf : OntClass} {d : Draft}
    (h : (variantDraft o leaf).result = .ok (some d)) : (o.typeChain leaf.iri).result = .ok d.key := by
  obtain ⟨names, hnames, h⟩ := result_bind_eq_ok.1 h
  cases h
  exact hnames

/-- A hashed number is that of the key, whatever was drafted. -/
theorem number_of_draftedAs {α : Type} {draft : α → Attempt HierarchyError (Option Draft)} {i : α}
    {f : Field} {key : List String} (hs : s.hashedNumbers = true)
    (hf : DraftedAs draft s.hashedNumbers i f)
    (hkey : ∀ d, (draft i).result = .ok (some d) → d.key = key) :
    f.number = FieldNumber.hashed key := by
  obtain ⟨d, n, hdraft, rfl, hn⟩ := hf
  rw [← hkey d hdraft]
  exact hn hs

/-- Hashed numbers of data properties are those of the names of the class and the property. -/
theorem number_of_hasDataField (hs : s.hashedNumbers = true)
    (h : (messageOf s o c).result = .ok m) (hc : c.children = []) {names : List String}
    (hnames : (o.typeChain c.iri).result = .ok names) {p : DataProperty} {f : Field}
    (hf : HasDataField o c m p f) : f.number = FieldNumber.hashed (names ++ [p.name]) := by
  obtain ⟨r, -, hd, -⟩ := hasFields_iff h hc
  obtain rfl : names = r.names := Except.ok.inj (hnames.symm.trans r.names_eq)
  have hdrafted := (List.forall₂_iff_zip.1 r.forall₂_dataFields).2 ((hd p f).1 hf)
  exact number_of_draftedAs hs hdrafted fun _ => key_of_dataDraft

/-- Hashed numbers of object properties are those of the names of the class and the target. -/
theorem number_of_hasObjectField (hs : s.hashedNumbers = true)
    (h : (messageOf s o c).result = .ok m) (hc : c.children = []) {names : List String}
    (hnames : (o.typeChain c.iri).result = .ok names) {p : ObjectProperty} {f : Field}
    (hf : HasObjectField o c m p f) : f.number = FieldNumber.hashed (names ++ [p.targetName]) := by
  obtain ⟨r, -, -, ho⟩ := hasFields_iff h hc
  obtain rfl : names = r.names := Except.ok.inj (hnames.symm.trans r.names_eq)
  have hdrafted := (List.forall₂_iff_zip.1 r.forall₂_objectFields).2 ((ho p f).1 hf)
  exact number_of_draftedAs hs hdrafted fun _ => key_of_objectDraft

/-- Hashed numbers of variants are those of the names of the class that the variant is for. -/
theorem number_of_hasVariant (hs : s.hashedNumbers = true)
    (h : (messageOf s o c).result = .ok m) (hc : c.children ≠ []) {leaf : OntClass} {v : Field}
    (hv : HasVariant o c m leaf v) {names : List String}
    (hnames : (o.typeChain leaf.iri).result = .ok names) : v.number = FieldNumber.hashed names := by
  obtain ⟨leaves, hl, hv⟩ := hv
  obtain ⟨-, leaves', variants, _, hl', hbody, hnumbered⟩ := messageOf_eq_union h hc
  obtain rfl : leaves = leaves' := Except.ok.inj (hl.symm.trans hl')
  rw [Message.fields, hbody] at hv
  have hdrafted := (List.forall₂_iff_zip.1 (forall₂_drafted_variants hnumbered)).2 hv
  refine number_of_draftedAs hs hdrafted fun d hdraft => ?_
  exact Except.ok.inj ((key_of_variantDraft hdraft).symm.trans hnames)

/-- Take two schemas with hashed numbers, of any two ontologies, and in each a class without children,
with the same display names along its ancestry. Data properties of one name have one number in both
messages, and so have object properties whose targets have one name; and the variants of these classes
have one number in every union of both schemas. -/
theorem hashed_numbers_stable {s₁ s₂ : SchemaOptions} {o₁ o₂ : Ontology} {schema₁ schema₂ : Schema}
    (hs₁ : s₁.hashedNumbers = true) (hs₂ : s₂.hashedNumbers = true)
    (h₁ : (ofOntology s₁ o₁).result = .ok schema₁) (h₂ : (ofOntology s₂ o₂).result = .ok schema₂)
    {c₁ c₂ : OntClass} {m₁ m₂ : Message} (hm₁ : (c₁, m₁) ∈ o₁.classes.values.zip schema₁.messages)
    (hm₂ : (c₂, m₂) ∈ o₂.classes.values.zip schema₂.messages) (hc₁ : c₁.children = [])
    (hc₂ : c₂.children = []) {names : List String}
    (hnames₁ : (o₁.typeChain c₁.iri).result = .ok names)
    (hnames₂ : (o₂.typeChain c₂.iri).result = .ok names) :
    (∀ p₁ f₁ p₂ f₂, HasDataField o₁ c₁ m₁ p₁ f₁ → HasDataField o₂ c₂ m₂ p₂ f₂ →
        p₁.name = p₂.name → f₁.number = f₂.number) ∧
      (∀ p₁ f₁ p₂ f₂, HasObjectField o₁ c₁ m₁ p₁ f₁ → HasObjectField o₂ c₂ m₂ p₂ f₂ →
        p₁.targetName = p₂.targetName → f₁.number = f₂.number) ∧
      ∃ n, (∀ u m leaf v, (u, m) ∈ o₁.classes.values.zip schema₁.messages → u.children ≠ [] →
          HasVariant o₁ u m leaf v → leaf.iri = c₁.iri → v.number = n) ∧
        ∀ u m leaf v, (u, m) ∈ o₂.classes.values.zip schema₂.messages → u.children ≠ [] →
          HasVariant o₂ u m leaf v → leaf.iri = c₂.iri → v.number = n := by
  have hmessage₁ := messageOf_of_mem_zip h₁ hm₁
  have hmessage₂ := messageOf_of_mem_zip h₂ hm₂
  refine ⟨?_, ?_, FieldNumber.hashed names, ?_, ?_⟩
  · intro p₁ f₁ p₂ f₂ hf₁ hf₂ hname
    rw [number_of_hasDataField hs₁ hmessage₁ hc₁ hnames₁ hf₁,
      number_of_hasDataField hs₂ hmessage₂ hc₂ hnames₂ hf₂, hname]
  · intro p₁ f₁ p₂ f₂ hf₁ hf₂ htarget
    rw [number_of_hasObjectField hs₁ hmessage₁ hc₁ hnames₁ hf₁,
      number_of_hasObjectField hs₂ hmessage₂ hc₂ hnames₂ hf₂, htarget]
  · intro u m leaf v hm hu hv hleaf
    exact number_of_hasVariant hs₁ (messageOf_of_mem_zip h₁ hm) hu hv (hleaf ▸ hnames₁)
  · intro u m leaf v hm hu hv hleaf
    exact number_of_hasVariant hs₂ (messageOf_of_mem_zip h₂ hm) hu hv (hleaf ▸ hnames₂)

/-- A class with data properties that refers to itself, and other classes. -/
def edition (properties others : List String) : Document where
  declarations := ("urn:a" :: others).map fun iri => { class? := some { iri := some iri } }
  axioms :=
    properties.map (fun property =>
      { classes := [{ iri := some "urn:a" }]
        dataValue := [{ property := { iri := some property }, literal := "string" }] }) ++
    [{ classes := [{ iri := some "urn:a" }]
       objectSome := [{ property := { iri := some "urn:r" }, target := { iri := some "urn:a" } }] }]

theorem hashed_numbers_stable_edition :
    ∃ o₁ o₂ schema₁ schema₂ c₁ c₂ m₁ m₂ names, o₁ ≠ o₂ ∧
      (ofOntology {} o₁).result = .ok schema₁ ∧
      (ofOntology ({} : SchemaOptions).condensed o₂).result = .ok schema₂ ∧
      (c₁, m₁) ∈ o₁.classes.values.zip schema₁.messages ∧
      (c₂, m₂) ∈ o₂.classes.values.zip schema₂.messages ∧ c₁.children = [] ∧ c₂.children = [] ∧
      (o₁.typeChain c₁.iri).result = .ok names ∧ (o₂.typeChain c₂.iri).result = .ok names ∧
      (∃ p f₁ f₂, HasDataField o₁ c₁ m₁ p f₁ ∧ HasDataField o₂ c₂ m₂ p f₂ ∧
        f₁.number = f₂.number) ∧
      ∃ r f₁ f₂, HasObjectField o₁ c₁ m₁ r f₁ ∧ HasObjectField o₂ c₂ m₂ r f₂ ∧
        f₁.number = f₂.number := by
  have hw₁ := Ontology.wellFormed_ofDocument "" (edition ["urn:p"] [])
  have hw₂ := Ontology.wellFormed_ofDocument "urn:b" (edition ["urn:o", "urn:p"] ["urn:b"])
  have ha₁ := Ontology.acyclic_of_rank hw₁.keyed (fun _ => 0) (by decide +kernel)
  have ha₂ := Ontology.acyclic_of_rank hw₂.keyed (fun _ => 0) (by decide +kernel)
  let o : DataProperty := { iri := "urn:o", type := "string", name := "urn:o", owner := "urn:a" }
  let p : DataProperty := { iri := "urn:p", type := "string", name := "urn:p", owner := "urn:a" }
  let r : ObjectProperty :=
    { iri := "urn:r", name := "urn:r", owner := "urn:a", target := "urn:a", targetName := "urn:a" }
  let a₁ : OntClass :=
    { iri := "urn:a", name := "urn:a", dataProperties := [p], objectProperties := [r] }
  let a₂ : OntClass := { a₁ with dataProperties := [o, p] }
  let o₁ : Ontology := Ontology.insert {} a₁
  let o₂ : Ontology :=
    (Ontology.insert { root := "urn:b" } a₂).insert { iri := "urn:b", name := "urn:b" }
  have ho₁ : (Ontology.ofDocument "" (edition ["urn:p"] [])).value = o₁ := by decide +kernel
  have ho₂ : (Ontology.ofDocument "urn:b" (edition ["urn:o", "urn:p"] ["urn:b"])).value = o₂ := by
    decide +kernel
  rw [ho₁] at hw₁ ha₁
  rw [ho₂] at hw₂ ha₂
  obtain ⟨schema₁, h₁⟩ := exists_ofOntology (s := {}) hw₁ ha₁ rfl
  obtain ⟨schema₂, h₂⟩ := exists_ofOntology (s := ({} : SchemaOptions).condensed) hw₂ ha₂ rfl
  obtain ⟨m₁, -, hm₁⟩ := exists_of_forall₂ (forall₂_mem_zip (forall₂_messages h₁))
    (a := a₁) (by decide +kernel)
  obtain ⟨m₂, -, hm₂⟩ := exists_of_forall₂ (forall₂_mem_zip (forall₂_messages h₂))
    (a := a₂) (by decide +kernel)
  have hmessage₁ := messageOf_of_mem_zip h₁ hm₁
  have hmessage₂ := messageOf_of_mem_zip h₂ hm₂
  have hnames₁ : (o₁.typeChain "urn:a").result = .ok ["urn:a"] := by cbv
  have hnames₂ : (o₂.typeChain "urn:a").result = .ok ["urn:a"] := by cbv
  have hdata₁ : (o₁.allDataProperties "urn:a").result = .ok [p] := by cbv
  have hdata₂ : (o₂.allDataProperties "urn:a").result = .ok [o, p] := by cbv
  have hobject₁ : (o₁.allObjectProperties "urn:a").result = .ok [r] := by cbv
  have hobject₂ : (o₂.allObjectProperties "urn:a").result = .ok [r] := by cbv
  obtain ⟨f₁, hf₁⟩ := exists_hasDataField hmessage₁ rfl hdata₁ (p := p)
    (mem_shownData.2 ⟨by decide, by decide⟩)
  obtain ⟨f₂, hf₂⟩ := exists_hasDataField hmessage₂ rfl hdata₂ (p := p)
    (mem_shownData.2 ⟨by decide, by decide⟩)
  obtain ⟨g₁, hg₁⟩ := exists_hasObjectField hmessage₁ rfl hobject₁ (p := r)
    (mem_shownObject.2 ⟨by decide, by decide⟩)
  obtain ⟨g₂, hg₂⟩ := exists_hasObjectField hmessage₂ rfl hobject₂ (p := r)
    (mem_shownObject.2 ⟨by decide, by decide⟩)
  obtain ⟨hdata, hobject, -⟩ :=
    hashed_numbers_stable rfl rfl h₁ h₂ hm₁ hm₂ rfl rfl hnames₁ hnames₂
  exact ⟨o₁, o₂, schema₁, schema₂, a₁, a₂, m₁, m₂, ["urn:a"], by decide +kernel, h₁, h₂, hm₁, hm₂,
    rfl, rfl, hnames₁, hnames₂, ⟨p, f₁, f₂, hf₁, hf₂, hdata p f₁ p f₂ hf₁ hf₂ rfl⟩,
    ⟨r, g₁, g₂, hg₁, hg₂, hobject r g₁ r g₂ hg₁ hg₂ rfl⟩⟩

end OntologySchema.Schema
