import OntologySchema.Proofs.ByteOrder
import OntologySchema.Proofs.Schema.References
import OntologySchema.Proofs.Schema.Stability

/-!
# Fields that have one key

All fields of a record are numbered from the names along the ancestry of the class and one name more. For a
data property that is its own name, which the field is called after; so data properties whose fields are called
differently have different keys. For an object property it is the name of the target, and the role of the
property does not enter: a class that refers to one target in two roles, or has a data property that is called
like a target, has two fields with one key, and with one number whatever the hash is.

A key is hashed as the bytes of its parts, one after the other. The parts in front are the same for all fields
of a record, so two keys have the same bytes just when they have the same last part (`keyBytes_concat_inj`).
-/

namespace OntologySchema

theorem Text.utf8_injective : Function.Injective Text.utf8 := fun _ _ h =>
  String.toByteArray_inj.1 (ByteArray.ext (Array.toList_inj.1 h))

namespace FieldNumber

theorem keyBytes_concat (names : List String) (last : String) :
    keyBytes (names ++ [last]) = keyBytes names ++ Text.utf8 last := by
  rw [keyBytes, List.flatMap_append, List.flatMap_singleton, Text.utf8_eq]
  rfl

/-- Keys that differ in their last part only have different bytes. -/
theorem keyBytes_concat_inj {names : List String} {a b : String} :
    keyBytes (names ++ [a]) = keyBytes (names ++ [b]) ↔ a = b := by
  rw [keyBytes_concat, keyBytes_concat, List.append_cancel_left_eq, Text.utf8_injective.eq_iff]

end FieldNumber

/-- What a field of a record is of. -/
inductive FieldSource where
  | data (p : DataProperty)
  | object (p : ObjectProperty)
  deriving DecidableEq, Repr

namespace FieldSource

/-- The name at the end of the key. -/
def lastPart : FieldSource → String
  | .data p => p.name
  | .object p => p.targetName

/-- The field refers to a class. -/
def isObject : FieldSource → Bool
  | .data _ => false
  | .object _ => true

end FieldSource

namespace Schema

open Attempt FieldNumber

variable {s : SchemaOptions} {o : Ontology} {c : OntClass} {m : Message} {schema : Schema}
variable {x y : FieldSource} {f g : Field} {names : List String}

/-- In the message `m` of the class `c`, the field of `x` is `f`. -/
def HasField (o : Ontology) (c : OntClass) (m : Message) : FieldSource → Field → Prop
  | .data p => HasDataField o c m p
  | .object p => HasObjectField o c m p

theorem exists_source_of_mem (h : (messageOf s o c).result = .ok m) (hc : c.children = [])
    (hf : f ∈ m.fields) : ∃ x, HasField o c m x f := by
  rcases hasField_of_mem h hc hf with ⟨p, hp⟩ | ⟨p, hp⟩
  · exact ⟨.data p, hp⟩
  · exact ⟨.object p, hp⟩

/-- Hashed numbers are those of the names of the class and the last part. -/
theorem number_of_hasField (hs : s.hashedNumbers = true) (h : (messageOf s o c).result = .ok m)
    (hc : c.children = []) (hnames : (o.typeChain c.iri).result = .ok names)
    (hf : HasField o c m x f) : f.number = hashed (names ++ [x.lastPart]) := by
  cases x with
  | data p => exact number_of_hasDataField hs h hc hnames hf
  | object p => exact number_of_hasObjectField hs h hc hnames hf

/-- The field of a data property is called after it. -/
theorem name_of_hasDataField (h : (messageOf s o c).result = .ok m) (hc : c.children = [])
    {p : DataProperty} (hf : HasDataField o c m p f) : f.shape.name = Naming.snakeCase p.name := by
  obtain ⟨r, -, hd, -⟩ := hasFields_iff h hc
  have hzip := (hd p f).1 hf
  obtain ⟨d, n, hdraft, rfl, -⟩ := (List.forall₂_iff_zip.1 r.forall₂_dataFields).2 hzip
  have hrenders := dataDraft_shown r.names p hdraft
  rw [if_pos (mem_shownData.1 (List.of_mem_zip hzip).1).2] at hrenders
  obtain ⟨_, hd, hrenders⟩ := hrenders
  cases hd
  rw [(hrenders n).1]

/-- Where fields are called differently and have the same last part, one of them refers to a class. -/
theorem isObject_of_lastPart_eq (h : (messageOf s o c).result = .ok m) (hc : c.children = [])
    (hf : HasField o c m x f) (hg : HasField o c m y g) (hname : f.shape.name ≠ g.shape.name)
    (hlast : x.lastPart = y.lastPart) : x.isObject = true ∨ y.isObject = true := by
  match x, y with
  | .object _, _ => exact .inl rfl
  | .data _, .object _ => exact .inr rfl
  | .data p, .data q =>
    have hpq : p.name = q.name := hlast
    rw [name_of_hasDataField h hc hf, name_of_hasDataField h hc hg, hpq] at hname
    exact absurd rfl hname

/-- In a record with hashed numbers every field has the number of a key, which is made from what the field
is of. Fields that are called differently have different keys, unless one of them refers to a class and the
keys end in the same name. -/
theorem hashed_keys_apart (hs : s.hashedNumbers = true) (h : (ofOntology s o).result = .ok schema)
    (hm : (c, m) ∈ o.classes.values.zip schema.messages) (hc : c.children = []) :
    ∃ names, (o.typeChain c.iri).result = .ok names ∧
      (∀ f ∈ m.fields, ∃ x, HasField o c m x f) ∧
      (∀ x f, HasField o c m x f → f.number = hashed (names ++ [x.lastPart])) ∧
      ∀ x f y g, HasField o c m x f → HasField o c m y g → f.shape.name ≠ g.shape.name →
        (keyBytes (names ++ [x.lastPart]) = keyBytes (names ++ [y.lastPart]) ↔
          (x.isObject = true ∨ y.isObject = true) ∧ x.lastPart = y.lastPart) := by
  have hmessage := messageOf_of_mem_zip h hm
  obtain ⟨r, -⟩ := exists_recordParts hmessage hc
  refine ⟨r.names, r.names_eq, fun f => exists_source_of_mem hmessage hc,
    fun x f => number_of_hasField hs hmessage hc r.names_eq, fun x f y g hf hg hname => ?_⟩
  rw [keyBytes_concat_inj]
  exact ⟨fun hlast => ⟨isObject_of_lastPart_eq hmessage hc hf hg hname hlast, hlast⟩, And.right⟩

/-! ### One target in two roles -/

/-- A class with a data property that refers to another class in two roles. -/
def inTwoRoles : Document where
  declarations := ["urn:/A", "urn:/B"].map fun iri => { class? := some { iri := some iri } }
  axioms :=
    [{ classes := [{ iri := some "urn:/A" }]
       dataValue := [{ property := { iri := some "urn:/size" }, literal := "string" }] },
     { classes := [{ iri := some "urn:/A" }]
       objectSome := ["urn:/has", "urn:/to"].map fun property =>
         { property := { iri := some property }, target := { iri := some "urn:/B" } } }]

/-- The fields of that class. -/
theorem exists_fields_inTwoRoles :
    ∃ schema c m, (ofOntology {} (Ontology.ofDocument "" inTwoRoles).value).result = .ok schema ∧
      (c, m) ∈ (Ontology.ofDocument "" inTwoRoles).value.classes.values.zip schema.messages ∧
      c.children = [] ∧
      ((Ontology.ofDocument "" inTwoRoles).value.typeChain c.iri).result = .ok ["A"] ∧
      ∃ p x y size one many,
        HasField (Ontology.ofDocument "" inTwoRoles).value c m (.data p) size ∧
        HasField (Ontology.ofDocument "" inTwoRoles).value c m (.object x) one ∧
        HasField (Ontology.ofDocument "" inTwoRoles).value c m (.object y) many ∧
        p.name = "size" ∧ x.targetName = "B" ∧ y.targetName = "B" ∧
        size.shape.name = "size" ∧ one.shape.name = "b" ∧ many.shape.name = "bs" := by
  have hw := Ontology.wellFormed_ofDocument "" inTwoRoles
  have ha := Ontology.acyclic_of_rank hw.keyed (fun _ => 0) (by decide +kernel)
  let p : DataProperty := { iri := "urn:/size", type := "string", name := "size", owner := "urn:/A" }
  let x : ObjectProperty :=
    { iri := "urn:/has", name := "has", owner := "urn:/A", target := "urn:/B", targetName := "B" }
  let y : ObjectProperty := { x with iri := "urn:/to", name := "to" }
  let a : OntClass :=
    { iri := "urn:/A", name := "A", dataProperties := [p], objectProperties := [x, y] }
  let o : Ontology := (Ontology.insert {} a).insert { iri := "urn:/B", name := "B" }
  have ho : (Ontology.ofDocument "" inTwoRoles).value = o := by decide +kernel
  rw [ho] at hw ha ⊢
  obtain ⟨schema, h⟩ := exists_ofOntology (s := {}) hw ha rfl
  obtain ⟨m, -, hm⟩ := exists_of_forall₂ (forall₂_mem_zip (forall₂_messages h))
    (a := a) (by decide +kernel)
  have hmessage := messageOf_of_mem_zip h hm
  have hnames : (o.typeChain "urn:/A").result = .ok ["A"] := by cbv
  have hdata : (o.allDataProperties "urn:/A").result = .ok [p] := by cbv
  have hobject : (o.allObjectProperties "urn:/A").result = .ok [x, y] := by cbv
  have hbelow : (o.isAtOrBelowRoot "urn:/B").result = .ok false := by cbv
  obtain ⟨size, hsize⟩ := exists_hasDataField hmessage rfl hdata (p := p)
    (mem_shownData.2 ⟨by decide, by decide⟩)
  obtain ⟨one, hone⟩ := exists_hasObjectField hmessage rfl hobject (p := x)
    (mem_shownObject.2 ⟨by decide, by decide⟩)
  obtain ⟨many, hmany⟩ := exists_hasObjectField hmessage rfl hobject (p := y)
    (mem_shownObject.2 ⟨by decide, by decide⟩)
  have hshape : ∀ {q : ObjectProperty} {f : Field}, HasObjectField o a m q f → q.target = "urn:/B" →
      f.shape = (RelationRole.ofName q.name).field q.targetName false := by
    intro q f hf htarget
    obtain ⟨⟨belowRoot, hb, hshape, -⟩, -⟩ := rendersObject_of_hasObjectField hmessage rfl hf
    rw [htarget, hbelow] at hb
    rw [hshape, ← Except.ok.inj hb]
  refine ⟨schema, a, m, h, hm, rfl, hnames, p, x, y, size, one, many, hsize, hone, hmany, rfl, rfl, rfl,
    ?_, ?_, ?_⟩
  · rw [name_of_hasDataField hmessage rfl hsize]
    cbv
  · rw [hshape hone rfl]
    cbv
  · rw [hshape hmany rfl]
    cbv

/-- The field of the data property has a key of its own. -/
theorem hashed_keys_apart_inTwoRoles :
    ∃ schema c m, (ofOntology {} (Ontology.ofDocument "" inTwoRoles).value).result = .ok schema ∧
      (c, m) ∈ (Ontology.ofDocument "" inTwoRoles).value.classes.values.zip schema.messages ∧
      c.children = [] ∧ ∃ names x y f g,
        HasField (Ontology.ofDocument "" inTwoRoles).value c m x f ∧
        HasField (Ontology.ofDocument "" inTwoRoles).value c m y g ∧ f.shape.name ≠ g.shape.name ∧
        f.number = hashed (names ++ [x.lastPart]) ∧ g.number = hashed (names ++ [y.lastPart]) ∧
        keyBytes (names ++ [x.lastPart]) ≠ keyBytes (names ++ [y.lastPart]) := by
  obtain ⟨schema, c, m, h, hm, hc, -, p, x, -, size, one, -, hsize, hone, -, hp, hx, -, hsizeName,
    honeName, -⟩ := exists_fields_inTwoRoles
  obtain ⟨names, -, -, hnumber, hkeys⟩ := hashed_keys_apart rfl h hm hc
  have hname : size.shape.name ≠ one.shape.name := by
    rw [hsizeName, honeName]
    decide
  refine ⟨schema, c, m, h, hm, hc, names, _, _, size, one, hsize, hone, hname, hnumber _ _ hsize,
    hnumber _ _ hone, ?_⟩
  rw [Ne, hkeys _ _ _ _ hsize hone hname]
  intro hsame
  have hlast : p.name = x.targetName := hsame.2
  rw [hp, hx] at hlast
  exact absurd hlast (by decide)

/-- The two fields that refer to the other class are called differently and have one key, and so one
number. -/
theorem shared_key_inTwoRoles :
    ∃ schema c m, (ofOntology {} (Ontology.ofDocument "" inTwoRoles).value).result = .ok schema ∧
      (c, m) ∈ (Ontology.ofDocument "" inTwoRoles).value.classes.values.zip schema.messages ∧
      c.children = [] ∧ ∃ names x y f g,
        ((Ontology.ofDocument "" inTwoRoles).value.typeChain c.iri).result = .ok names ∧
        HasField (Ontology.ofDocument "" inTwoRoles).value c m x f ∧
        HasField (Ontology.ofDocument "" inTwoRoles).value c m y g ∧
        f.shape.name = "b" ∧ g.shape.name = "bs" ∧
        keyBytes (names ++ [x.lastPart]) = keyBytes (names ++ [y.lastPart]) ∧
        f.number = hashed ["A", "B"] ∧ g.number = hashed ["A", "B"] := by
  obtain ⟨schema, c, m, h, hm, hc, hnames, -, x, y, -, one, many, -, hone, hmany, -, hx, hy, -, honeName,
    hmanyName⟩ := exists_fields_inTwoRoles
  have hmessage := messageOf_of_mem_zip h hm
  have hlastOne : (FieldSource.object x).lastPart = "B" := hx
  have hlastMany : (FieldSource.object y).lastPart = "B" := hy
  have hnumberOne := number_of_hasField rfl hmessage hc hnames hone
  have hnumberMany := number_of_hasField rfl hmessage hc hnames hmany
  rw [hlastOne] at hnumberOne
  rw [hlastMany] at hnumberMany
  refine ⟨schema, c, m, h, hm, hc, ["A"], _, _, one, many, hnames, hone, hmany, honeName, hmanyName, ?_,
    hnumberOne, hnumberMany⟩
  rw [hlastOne, hlastMany]

end Schema

end OntologySchema
