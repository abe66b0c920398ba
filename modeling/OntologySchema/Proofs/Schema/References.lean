import OntologySchema.Proofs.Naming
import OntologySchema.Proofs.Schema.Fields
import OntologySchema.Proofs.Schema.Unions

/-!
# How classes are referred to

A reference to a class at or below the root is an identifier, any other one embeds the message of the
class; two roles are neither. Which of the two a field is shows in its label, type and name
(`identifies_field_iff`).

What is embedded is there: the name that a reference keeps of its target is the name of the message of
the target. So no type of a record or union of a document's schema dangles.
-/

namespace OntologySchema

namespace RelationRole

/-- The role refers to a class, by identifiers or by embedding it. -/
def IsReference (role : RelationRole) : Prop := role = .single ∨ role = .repeated

/-- The field holds the identifiers that a reference of this role has for its targets. -/
def Identifies (role : RelationRole) (f : FieldShape) : Prop :=
  f.type = "string" ∧
    match role with
    | .repeated => f.label = some .repeated ∧ ∃ stem, f.name = stem ++ "_ids"
    | _ => f.label = some .optional ∧ ∃ stem, f.name = stem ++ "_id"

/-- A reference is a field of identifiers just when its target is at or below the root. -/
theorem identifies_field_iff {role : RelationRole} (hrole : role.IsReference) (target : String)
    (belowRoot : Bool) : role.Identifies (role.field target belowRoot) ↔ belowRoot = true := by
  rcases hrole with rfl | rfl
  · cases belowRoot with
    | true => exact iff_of_true ⟨rfl, rfl, _, Naming.snakeCase_id target⟩ rfl
    | false =>
      refine iff_of_false ?_ Bool.false_ne_true
      rintro ⟨-, hlabel, -⟩
      cases hlabel
  · cases belowRoot with
    | true => exact iff_of_true ⟨rfl, rfl, _, Naming.snakeCase_ids target⟩ rfl
    | false =>
      -- only a class of the name `string` comes near, but the plural of its name does not end so
      refine iff_of_false ?_ Bool.false_ne_true
      rintro ⟨rfl, -, stem, hname⟩
      have hplural : Naming.snakeCase (Naming.plural "string") = "strings" := by decide +kernel
      have hsuffix : "_ids".toList <:+ "strings".toList :=
        ⟨stem.toList, by rw [← String.toList_append, ← hname, ← hplural]; rfl⟩
      exact absurd hsuffix (by decide)

theorem not_isReference_iff {role : RelationRole} :
    ¬ role.IsReference ↔ role = .proxyTarget ∨ role = .parentId := by
  cases role <;> simp [IsReference]

/-- Another name of a target, or that of a parent, is a text. -/
theorem type_field_of_proxyTarget_or_parentId {role : RelationRole}
    (hrole : role = .proxyTarget ∨ role = .parentId) (target : String) (belowRoot : Bool) :
    (role.field target belowRoot).type = "string" := by
  rcases hrole with rfl | rfl <;> rfl

/-- A reference to a class that is not at or below the root embeds it. -/
theorem type_field_of_isReference {role : RelationRole} (hrole : role.IsReference)
    (target : String) : (role.field target false).type = target := by
  rcases hrole with rfl | rfl <;> rfl

end RelationRole

/-- The designated root is the class at `k` or among its ancestors. -/
def Ontology.AtOrBelowRoot (o : Ontology) (k : String) : Prop :=
  ∃ chain, (o.ancestry k).result = .ok chain ∧ ∃ a ∈ chain, o.isRoot a = true

/-- The walk to the root finds it just when it is there. -/
theorem Ontology.atOrBelowRoot_iff {o : Ontology} {k : String} {t : OntClass}
    (ht : o.find? k = some t) {b : Bool} (h : (o.isAtOrBelowRoot k).result = .ok b) :
    o.AtOrBelowRoot k ↔ b = true := by
  obtain ⟨chain, hchain, rfl⟩ := (isAtOrBelowRoot_eq_ok_iff ht).1 h
  rw [List.any_eq_true]
  constructor
  · rintro ⟨chain', hchain', ha⟩
    obtain rfl := Except.ok.inj (hchain.symm.trans hchain')
    exact ha
  · exact fun ha => ⟨chain, hchain, ha⟩

namespace Schema

open Attempt

variable {s : SchemaOptions} {o : Ontology} {c : OntClass} {m : Message} {schema : Schema}

/-- There is a message of this name in the schema. -/
def Defines (schema : Schema) (name : String) : Prop := ∃ m ∈ schema.messages, m.name = name

/-- The field `f` is what the policy for references makes of the object property `p`. -/
structure FollowsPolicy (o : Ontology) (schema : Schema) (p : ObjectProperty) (f : Field) :
    Prop where
  /-- The roles that are not references have a text. -/
  text : RelationRole.ofName p.name = .proxyTarget ∨ RelationRole.ofName p.name = .parentId →
    f.shape.type = "string"
  /-- A reference is by identifiers just when the target is at or below the root. -/
  identifies : (RelationRole.ofName p.name).IsReference →
    ((RelationRole.ofName p.name).Identifies f.shape ↔ o.AtOrBelowRoot p.target)
  /-- Any other reference embeds the message of the target. -/
  embeds : (RelationRole.ofName p.name).IsReference → ¬ o.AtOrBelowRoot p.target →
    ∃ t, o.find? p.target = some t ∧ f.shape.type = t.name ∧ schema.Defines t.name

/-- A rendered object property follows the policy, if its target is there under its name. -/
theorem RendersObject.followsPolicy (h : (ofOntology s o).result = .ok schema) {p : ObjectProperty}
    {f : Field} (hf : RendersObject s o p f) {t : OntClass} (ht : o.find? p.target = some t)
    (hname : p.targetName = t.name) : FollowsPolicy o schema p f := by
  obtain ⟨belowRoot, hbelow, hshape, -⟩ := hf
  rw [hname] at hshape
  refine ⟨fun hrole => ?_, fun hrole => ?_, fun hrole hnot => ⟨t, ht, ?_, ?_⟩⟩
  · rw [hshape, RelationRole.type_field_of_proxyTarget_or_parentId hrole]
  · rw [hshape, RelationRole.identifies_field_iff hrole, Ontology.atOrBelowRoot_iff ht hbelow]
  · rw [Ontology.atOrBelowRoot_iff ht hbelow, Bool.not_eq_true] at hnot
    rw [hshape, hnot, RelationRole.type_field_of_isReference hrole]
  · exact exists_message_of_mem h (Table.mem_values_of_find? ht)

/-- A policy leaves no type dangling. -/
theorem FollowsPolicy.closed {p : ObjectProperty} {f : Field} (h : FollowsPolicy o schema p f) :
    f.shape.type = "string" ∨ schema.Defines f.shape.type := by
  by_cases hrole : (RelationRole.ofName p.name).IsReference
  · by_cases hbelow : o.AtOrBelowRoot p.target
    · exact .inl ((h.identifies hrole).2 hbelow).1
    · obtain ⟨t, -, htype, hdefined⟩ := h.embeds hrole hbelow
      exact .inr (htype ▸ hdefined)
  · exact .inl (h.text (RelationRole.not_isReference_iff.1 hrole))

/-- The field of an object property in a record is rendered from it. -/
theorem rendersObject_of_hasObjectField (h : (messageOf s o c).result = .ok m) (hc : c.children = [])
    {p : ObjectProperty} {f : Field} (hf : HasObjectField o c m p f) :
    RendersObject s o p f ∧ ∃ object, (o.allObjectProperties c.iri).result = .ok object ∧ p ∈ object := by
  obtain ⟨r, -, -, ho⟩ := hasFields_iff h hc
  have hzip := (ho p f).1 hf
  obtain ⟨d, n, hdraft, rfl, -⟩ := (List.forall₂_iff_zip.1 r.forall₂_objectFields).2 hzip
  obtain ⟨hp, hshown⟩ := mem_shownObject.1 (List.of_mem_zip hzip).1
  have hrenders := objectDraft_shown r.names p hdraft
  rw [if_pos hshown] at hrenders
  obtain ⟨_, hd, hrenders⟩ := hrenders
  cases hd
  exact ⟨hrenders n, r.object, r.object_eq, hp⟩

/-- In a well-formed ontology the targets of all that a class inherits are there, under their names. -/
theorem target_of_mem_allObjectProperties (hw : o.WellFormed) (hc : o.find? c.iri = some c)
    {object : List ObjectProperty} (hobject : (o.allObjectProperties c.iri).result = .ok object)
    {p : ObjectProperty} (hp : p ∈ object) : ∃ t, o.find? p.target = some t ∧ p.targetName = t.name := by
  obtain ⟨chain, hchain, hobject⟩ := result_bind_eq_ok.1 hobject
  cases hobject
  obtain ⟨a, ha, hp⟩ := List.mem_flatMap.1 hp
  have hlineage := (Ontology.inheritanceChain_eq_ok_iff hw.keyed hc).1 hchain
  exact hw.target_named (hlineage.found hw.keyed hc a ha) hp

/-- The references of the class `c` in its message `m` follow the policy, and no type of the message
dangles. -/
structure RefersProperly (o : Ontology) (schema : Schema) (c : OntClass) (m : Message) : Prop where
  policy : c.children = [] → ∀ p f, HasObjectField o c m p f → FollowsPolicy o schema p f
  /-- A field of a record is that of a data property, a text, or embeds a message. -/
  record_closed : c.children = [] → ∀ f ∈ m.fields,
    (∃ p, HasDataField o c m p f) ∨ f.shape.type = "string" ∨ schema.Defines f.shape.type
  /-- A variant of a union embeds a message. -/
  union_closed : c.children ≠ [] → ∀ v ∈ m.fields, schema.Defines v.shape.type

theorem refersProperly_of_messageOf (hw : o.WellFormed) (h : (ofOntology s o).result = .ok schema)
    (hc : o.find? c.iri = some c) (hm : (messageOf s o c).result = .ok m) :
    RefersProperly o schema c m := by
  have hpolicy : c.children = [] → ∀ p f, HasObjectField o c m p f → FollowsPolicy o schema p f := by
    intro hnil p f hf
    obtain ⟨hrenders, object, hobject, hp⟩ := rendersObject_of_hasObjectField hm hnil hf
    obtain ⟨t, ht, hname⟩ := target_of_mem_allObjectProperties hw hc hobject hp
    exact hrenders.followsPolicy h ht hname
  refine ⟨hpolicy, fun hnil f hf => ?_, fun hchildren v hv => ?_⟩
  · rcases hasField_of_mem hm hnil hf with hdata | ⟨p, hobject⟩
    · exact .inl hdata
    · exact .inr (hpolicy hnil p f hobject).closed
  · obtain ⟨-, leaves, variants, _, hl, hbody, hnumbered⟩ := messageOf_eq_union hm hchildren
    rw [Message.fields, hbody] at hv
    obtain ⟨leaf, hleaf, hshape⟩ := exists_of_forall₂ (forall₂_variants hnumbered).flip hv
    rw [hshape]
    have hfound := ((Ontology.mem_leaves_iff hw.keyed hl).1 hleaf).found
    exact exists_message_of_mem h (Table.mem_values_of_find? hfound)

/-- In the schema of a document without cycles, each object property of each class without children is
rendered by the policy for references, and no type dangles: what is embedded, and each variant of a
union, has a message of its name. With hashed numbers there is such a schema. -/
theorem references_ofDocument (root : String) (d : Document) (s : SchemaOptions)
    (ha : (Ontology.ofDocument root d).value.Acyclic) :
    (s.hashedNumbers = true → ∃ schema,
        (ofOntology s (Ontology.ofDocument root d).value).result = .ok schema) ∧
      ∀ schema, (ofOntology s (Ontology.ofDocument root d).value).result = .ok schema →
        List.Forall₂ (RefersProperly (Ontology.ofDocument root d).value schema)
          (Ontology.ofDocument root d).value.classes.values schema.messages := by
  have hw := Ontology.wellFormed_ofDocument root d
  set o := (Ontology.ofDocument root d).value
  refine ⟨fun hs => exists_ofOntology hw ha hs, fun schema h => ?_⟩
  exact (forall₂_messages_of_keyed hw.keyed h).imp
    fun c m ⟨hc, hm⟩ => refersProperly_of_messageOf hw h hc hm

/-- Four classes, of which one is the root and one below it; another refers to those and to itself. -/
def referring : Document where
  declarations :=
    ["urn:a", "urn:b", "urn:c", "urn:d"].map fun iri => { class? := some { iri := some iri } }
  axioms :=
    { classes := [{ iri := some "urn:c" }, { iri := some "urn:b" }] } ::
    [("urn:/has", "urn:c"), ("urn:/to", "urn:b"), ("urn:/to", "urn:d"), ("urn:/parent", "urn:b")].map
      fun (property, target) =>
        { classes := [{ iri := some "urn:d" }]
          objectSome := [{ property := { iri := some property }, target := { iri := some target } }] }

theorem references_referring : (Ontology.ofDocument "urn:b" referring).value.Acyclic ∧ ∃ schema,
    (ofOntology {} (Ontology.ofDocument "urn:b" referring).value).result = .ok schema ∧
      List.Forall₂ (RefersProperly (Ontology.ofDocument "urn:b" referring).value schema)
        (Ontology.ofDocument "urn:b" referring).value.classes.values schema.messages := by
  have ha := Ontology.acyclic_of_rank (Ontology.wellFormed_ofDocument "urn:b" referring).keyed
    (fun k => if k = "urn:c" then 1 else 0) (by decide +kernel)
  obtain ⟨schema, h⟩ := (references_ofDocument "urn:b" referring {} ha).1 rfl
  exact ⟨ha, schema, h, (references_ofDocument "urn:b" referring {} ha).2 schema h⟩

end Schema

end OntologySchema
