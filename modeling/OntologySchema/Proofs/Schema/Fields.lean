import OntologySchema.Proofs.Schema.Inheritance

/-!
# Which field is whose

The fields of a record are those of the shown data properties and then those of the shown object
properties. `HasDataField` and `HasObjectField` pair properties with their fields, from top to bottom;
each shown property has a field, and each field is that of a property.
-/

namespace OntologySchema.Schema

open Attempt

variable {s : SchemaOptions} {o : Ontology} {c : OntClass} {m : Message}

/-- The data properties that have a field, in the order of their fields. -/
def shownData (data : List DataProperty) : List DataProperty :=
  (data.mergeSort dataBefore).filter DataProperty.isShown

theorem mem_shownData {data : List DataProperty} {p : DataProperty} :
    p ∈ shownData data ↔ p ∈ data ∧ p.isShown = true := by
  rw [shownData, List.mem_filter, List.mem_mergeSort]

/-- The object properties that have a field, in the order of their fields. -/
def shownObject (object : List ObjectProperty) : List ObjectProperty :=
  (object.mergeSort objectBefore).filter ObjectProperty.isShown

theorem mem_shownObject {object : List ObjectProperty} {p : ObjectProperty} :
    p ∈ shownObject object ↔ p ∈ object ∧ p.isShown = true := by
  rw [shownObject, List.mem_filter, List.mem_mergeSort]

/-- In the message `m` of the class `c`, the field of the data property `p` is `f`. -/
def HasDataField (o : Ontology) (c : OntClass) (m : Message) (p : DataProperty) (f : Field) : Prop :=
  ∃ data, (o.allDataProperties c.iri).result = .ok data ∧ (p, f) ∈ (shownData data).zip m.fields

/-- In the message `m` of the class `c`, the field of the object property `p` is `f`; the fields of the
data properties come first. -/
def HasObjectField (o : Ontology) (c : OntClass) (m : Message) (p : ObjectProperty) (f : Field) :
    Prop :=
  ∃ data object, (o.allDataProperties c.iri).result = .ok data ∧
    (o.allObjectProperties c.iri).result = .ok object ∧
    (p, f) ∈ (shownObject object).zip (m.fields.drop (shownData data).length)

/-! ### Records -/

namespace RecordParts

theorem forall₂_dataFields (r : RecordParts s o c) :
    List.Forall₂ (DraftedAs (dataDraft s o c r.names) s.hashedNumbers) (shownData r.data)
      r.dataFields :=
  forall₂_drafted (fun p _ h => isSome_of_shown (dataDraft_shown r.names p h)) r.dataFields_eq

theorem forall₂_objectFields (r : RecordParts s o c) :
    List.Forall₂ (DraftedAs (objectDraft s o r.names) s.hashedNumbers) (shownObject r.object)
      r.objectFields := by
  have h := forall₂_drafted (fun p _ h => isSome_of_shown (objectDraft_shown r.names p h))
    r.objectFields_eq
  rwa [hashed_of_numberAll r.dataFields_eq] at h

end RecordParts

/-- In a list that matches the first of two, the pairs with both are those with the first. -/
theorem zip_append_of_forall₂ {α β : Type} {R : α → β → Prop} {as : List α} {bs : List β}
    (h : List.Forall₂ R as bs) (bs' : List β) : as.zip (bs ++ bs') = as.zip bs := by
  have hzip : (as ++ []).zip (bs ++ bs') = as.zip bs ++ ([] : List α).zip bs' :=
    List.zip_append h.length_eq
  rwa [List.append_nil, List.zip_nil_left, List.append_nil] at hzip

/-- The fields of a record are paired with what they are of. -/
theorem hasFields_iff (h : (messageOf s o c).result = .ok m) (hc : c.children = []) :
    ∃ r : RecordParts s o c, m.fields = r.dataFields ++ r.objectFields ∧
      (∀ p f, HasDataField o c m p f ↔ (p, f) ∈ (shownData r.data).zip r.dataFields) ∧
        ∀ p f, HasObjectField o c m p f ↔ (p, f) ∈ (shownObject r.object).zip r.objectFields := by
  obtain ⟨r, rfl⟩ := exists_recordParts h hc
  have hlen := r.forall₂_dataFields.length_eq
  refine ⟨r, rfl, fun p f => ⟨?_, fun hf => ⟨r.data, r.data_eq, ?_⟩⟩,
    fun p f => ⟨?_, fun hf => ⟨r.data, r.object, r.data_eq, r.object_eq, ?_⟩⟩⟩
  · rintro ⟨data, hdata, hf⟩
    obtain rfl : data = r.data := Except.ok.inj (hdata.symm.trans r.data_eq)
    rwa [Message.fields, zip_append_of_forall₂ r.forall₂_dataFields] at hf
  · rwa [Message.fields, zip_append_of_forall₂ r.forall₂_dataFields]
  · rintro ⟨data, object, hdata, hobject, hf⟩
    obtain rfl : data = r.data := Except.ok.inj (hdata.symm.trans r.data_eq)
    obtain rfl : object = r.object := Except.ok.inj (hobject.symm.trans r.object_eq)
    rwa [Message.fields, List.drop_left' hlen.symm] at hf
  · rwa [Message.fields, List.drop_left' hlen.symm]

/-- A shown data property has a field. -/
theorem exists_hasDataField (h : (messageOf s o c).result = .ok m) (hc : c.children = [])
    {data : List DataProperty} (hdata : (o.allDataProperties c.iri).result = .ok data)
    {p : DataProperty} (hp : p ∈ shownData data) : ∃ f, HasDataField o c m p f := by
  obtain ⟨r, -, hd, -⟩ := hasFields_iff h hc
  obtain rfl : data = r.data := Except.ok.inj (hdata.symm.trans r.data_eq)
  obtain ⟨f, -, hf⟩ := exists_of_forall₂ (forall₂_mem_zip r.forall₂_dataFields) hp
  exact ⟨f, (hd p f).2 hf⟩

/-- A shown object property has a field. -/
theorem exists_hasObjectField (h : (messageOf s o c).result = .ok m) (hc : c.children = [])
    {object : List ObjectProperty} (hobject : (o.allObjectProperties c.iri).result = .ok object)
    {p : ObjectProperty} (hp : p ∈ shownObject object) : ∃ f, HasObjectField o c m p f := by
  obtain ⟨r, -, -, ho⟩ := hasFields_iff h hc
  obtain rfl : object = r.object := Except.ok.inj (hobject.symm.trans r.object_eq)
  obtain ⟨f, -, hf⟩ := exists_of_forall₂ (forall₂_mem_zip r.forall₂_objectFields) hp
  exact ⟨f, (ho p f).2 hf⟩

/-- Each field of a record is that of a property. -/
theorem hasField_of_mem (h : (messageOf s o c).result = .ok m) (hc : c.children = []) {f : Field}
    (hf : f ∈ m.fields) : (∃ p, HasDataField o c m p f) ∨ ∃ p, HasObjectField o c m p f := by
  obtain ⟨r, hfields, hd, ho⟩ := hasFields_iff h hc
  rw [hfields] at hf
  rcases List.mem_append.1 hf with hf | hf
  · obtain ⟨p, -, hp⟩ := exists_of_forall₂ (forall₂_mem_zip r.forall₂_dataFields).flip hf
    exact .inl ⟨p, (hd p f).2 hp⟩
  · obtain ⟨p, -, hp⟩ := exists_of_forall₂ (forall₂_mem_zip r.forall₂_objectFields).flip hf
    exact .inr ⟨p, (ho p f).2 hp⟩

end OntologySchema.Schema
