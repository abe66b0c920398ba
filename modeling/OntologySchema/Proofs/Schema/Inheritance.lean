import Mathlib
import OntologySchema.Proofs.Schema.Failure
import OntologySchema.Proofs.Schema.FieldText
import OntologySchema.Proofs.StableSort

/-!
# What a record inherits

The message of a class without children has the properties that the class and its ancestors declare, up
to the first root. `Inherits` says which they are, and in which order: what is declared along the
lineage, sorted by a key, and of that what is shown. Each property comes with the class that declares
it, so that two classes that declare the same property are told apart.

Each of the fields is that of one inherited property, and its lines say what that property says. The two
kinds of properties differ only in their keys, in what is shown and in how a property is rendered;
`inheritedFields_of_numberAll` is about both.
-/

namespace OntologySchema

/-- A data property has a field if it has a type and a name. -/
def DataProperty.isShown (p : DataProperty) : Bool := p.type ≠ "" && p.name ≠ ""

/-- An object property has a field if it has a target name and an identifier. -/
def ObjectProperty.isShown (p : ObjectProperty) : Bool := p.targetName ≠ "" && p.iri ≠ ""

/-- What object properties are sorted by. -/
def ObjectProperty.key (p : ObjectProperty) : String ×ₗ String := toLex (p.targetName, p.name)

namespace Schema

open Attempt

variable {s : SchemaOptions} {o : Ontology} {c : OntClass} {m : Message} {α κ : Type} [LinearOrder κ]

/-- What the classes of a chain declare, each with the class that declares it. -/
def declared (own : OntClass → List α) (chain : List OntClass) : List (OntClass × α) :=
  chain.flatMap fun a => (own a).map (Prod.mk a)

theorem mem_declared {own : OntClass → List α} {chain : List OntClass} {a : OntClass} {p : α} :
    (a, p) ∈ declared own chain ↔ a ∈ chain ∧ p ∈ own a := by
  simp [declared]

theorem map_snd_declared (own : OntClass → List α) (chain : List OntClass) :
    (declared own chain).map Prod.snd = chain.flatMap own := by
  simp [declared, List.map_flatMap]

/-- The properties of one kind that a class has, with the classes that declare them: those along the
lineage of the class up to the first root, sorted by a key, if they are shown. -/
def Inherits (o : Ontology) (c : OntClass) (own : OntClass → List α) (key : α → κ)
    (shown : α → Bool) (inherited : List (OntClass × α)) : Prop :=
  ∃ chain sorted, o.Lineage o.isRoot c chain ∧
    StablySorted (fun x => key x.2) (declared own chain) sorted ∧
    inherited = sorted.filter fun x => shown x.2

/-- The class `a` is `c` or one of its ancestors, and there is no root below it. -/
def InheritsFrom (o : Ontology) (c a : OntClass) : Prop :=
  ∃ below above, (o.ancestry c.iri).result = .ok (below ++ a :: above) ∧
    ∀ b ∈ below, o.isRoot b = false

/-- The fields are those of the properties of one kind that a class inherits, rendered one by one; and a
property that is shown is among them just when its class is one of those inherited from. -/
def InheritedFields (o : Ontology) (c : OntClass) (own : OntClass → List α) (key : α → κ)
    (shown : α → Bool) (Renders : α → Field → Prop) (fields : List Field) : Prop :=
  ∃ inherited, Inherits o c own key shown inherited ∧
    List.Forall₂ (fun x f => Renders x.2 f) inherited fields ∧
    ∀ a, ∀ p ∈ own a, shown p = true → ((a, p) ∈ inherited ↔ InheritsFrom o c a)

theorem InheritedFields.imp {own : OntClass → List α} {key : α → κ} {shown : α → Bool}
    {Renders Renders' : α → Field → Prop} {fields : List Field}
    (h : InheritedFields o c own key shown Renders fields)
    (himp : ∀ p f, Renders p f → Renders' p f) : InheritedFields o c own key shown Renders' fields := by
  obtain ⟨inherited, hinherits, hfields, hfrom⟩ := h
  exact ⟨inherited, hinherits, hfields.imp fun (x : OntClass × α) f => himp x.2 f, hfrom⟩

/-- What is inherited is what the classes inherited from declare. -/
theorem Inherits.mem_iff (hk : o.Keyed) {ancestors : List OntClass} (hc : o.find? c.iri = some c)
    (ha : (o.ancestry c.iri).result = .ok ancestors) {own : OntClass → List α} {key : α → κ}
    {shown : α → Bool} {inherited : List (OntClass × α)} (h : Inherits o c own key shown inherited)
    {a : OntClass} {p : α} (hp : p ∈ own a) (hshown : shown p = true) :
    (a, p) ∈ inherited ↔ InheritsFrom o c a := by
  obtain ⟨chain, sorted, hchain, hsorted, rfl⟩ := h
  obtain ⟨c', hc', hancestors⟩ := (Ontology.ancestry_eq_ok_iff hk).1 ha
  obtain rfl := Option.some.inj (hc.symm.trans hc')
  rw [List.mem_filter, hsorted.mem_iff, mem_declared, hchain.mem_iff_of_stop hancestors]
  constructor
  · rintro ⟨⟨⟨below, above, rfl, hbelow⟩, -⟩, -⟩
    exact ⟨below, above, ha, hbelow⟩
  · rintro ⟨below, above, h, hbelow⟩
    exact ⟨⟨⟨below, above, Except.ok.inj (ha.symm.trans h), hbelow⟩, hp⟩, hshown⟩

/-- Numbering the drafts of what is declared along a lineage gives the fields of what is inherited. -/
theorem inheritedFields_of_numberAll (hk : o.Keyed) (hc : o.find? c.iri = some c)
    {ancestors chain : List OntClass} (ha : (o.ancestry c.iri).result = .ok ancestors)
    (hchain : (o.inheritanceChain c.iri).result = .ok chain) {own : OntClass → List α}
    {key : α → κ} {before : α → α → Bool} (hbefore : ∀ a b, before a b = true ↔ key a ≤ key b)
    {shown : α → Bool} {Renders : α → Field → Prop}
    {draft : α → Attempt HierarchyError (Option Draft)}
    (hdraft : ∀ p d?, (draft p).result = .ok d? →
      if shown p then ∃ d, d? = some d ∧ ∀ n, Renders p (d.numbered n) else d? = none)
    {message : String} {numbering next : Numbering} {fields : List Field}
    (h : (numberAll message draft ((chain.flatMap own).mergeSort before) numbering).result =
      .ok (fields, next)) : InheritedFields o c own key shown Renders fields := by
  have hall := forall₂_numberAll hdraft h
  rw [← map_snd_declared, ← List.map_mergeSort (r := fun x y => before x.2 y.2) fun _ _ _ _ => rfl,
    List.filter_map, List.forall₂_map_left_iff] at hall
  have hinherits : Inherits o c own key shown _ :=
    ⟨chain, _, (Ontology.inheritanceChain_eq_ok_iff hk hc).1 hchain,
      .mergeSort (fun x y => hbefore x.2 y.2) _, rfl⟩
  exact ⟨_, hinherits, hall, fun _ _ hp hshown => hinherits.mem_iff hk hc ha hp hshown⟩

/-! ### The two kinds of properties -/

theorem dataBefore_iff (a b : DataProperty) : dataBefore a b = true ↔ a.name ≤ b.name :=
  decide_eq_true_iff

theorem objectBefore_iff (a b : ObjectProperty) : objectBefore a b = true ↔ a.key ≤ b.key := by
  simp [objectBefore, ObjectProperty.key, Prod.Lex.toLex_le_toLex]

theorem dataDraft_shown (names : List String) (p : DataProperty) {d? : Option Draft}
    (h : (dataDraft s o c names p).result = .ok d?) :
    if p.isShown then ∃ d, d? = some d ∧ ∀ n, RendersData s o p (d.numbered n) else d? = none := by
  unfold dataDraft at h
  split at h
  · next hempty =>
    obtain ⟨_, _, h⟩ := result_bind_eq_ok.1 h
    cases h
    rw [if_neg (by simpa [DataProperty.isShown, imp_iff_not_or] using hempty)]
  · next hempty =>
    cases h
    rw [if_pos (by simpa [DataProperty.isShown] using hempty)]
    exact ⟨_, rfl, fun n => ⟨rfl, rfl, rfl⟩⟩

theorem objectDraft_shown (names : List String) (p : ObjectProperty) {d? : Option Draft}
    (h : (objectDraft s o names p).result = .ok d?) :
    if p.isShown then ∃ d, d? = some d ∧ ∀ n, RendersObject s o p (d.numbered n) else d? = none := by
  unfold objectDraft at h
  split at h
  · next hempty =>
    cases h
    rw [if_neg (by simpa [ObjectProperty.isShown, imp_iff_not_or] using hempty)]
  · next hempty =>
    obtain ⟨belowRoot, hbelow, h⟩ := result_bind_eq_ok.1 h
    cases h
    rw [if_pos (by simpa [ObjectProperty.isShown] using hempty)]
    exact ⟨_, rfl, fun n => ⟨belowRoot, hbelow, rfl, rfl, rfl⟩⟩

/-! ### Records -/

/-- The message `m` records what the class `c` inherits: under its name, comments and options it has the
lines of the fields of the data properties and then those of the object properties, and no other lines. -/
def RecordsInherited (s : SchemaOptions) (o : Ontology) (c : OntClass) (m : Message) : Prop :=
  ∃ options dataFields objectFields, m.body = .record options (dataFields ++ objectFields) ∧
    m.lines = ["", "// " ++ c.name ++ m.body.introduction] ++ (m.comments.map fun x => "// " ++ x) ++
      ["message " ++ c.name ++ " \x7b"] ++ (options.map fun x => "\t" ++ x.text) ++
      dataFields.flatMap Field.lines ++ objectFields.flatMap Field.lines ++ ["\x7d"] ∧
    InheritedFields o c (·.dataProperties) (·.name) DataProperty.isShown (WritesData s o) dataFields ∧
    InheritedFields o c (·.objectProperties) ObjectProperty.key ObjectProperty.isShown
      (WritesObject s o) objectFields

/-- Where a keyed ontology has a schema, the text of the schema ends in the lines of its messages, and the
message of each class without children records all that the class inherits, in order, and nothing else. -/
theorem record_inherits (hk : o.Keyed) {schema : Schema} (h : (ofOntology s o).result = .ok schema) :
    schema.text = Text.unlines schema.headLines ++ Text.unlines (schema.messages.flatMap Message.lines) ∧
      List.Forall₂ (fun c m => c.children = [] → m.name = c.name ∧ RecordsInherited s o c m)
        o.classes.values schema.messages := by
  refine ⟨Text.unlines_append .., ?_⟩
  refine (forall₂_messages_of_keyed hk h).imp fun c m ⟨hc, hm⟩ hnil => ?_
  obtain ⟨hname, ancestors, chain, options, dataFields, _, objectFields, _, ha, hchain, hbody, hd, ho⟩ :=
    messageOf_eq_record hm hnil
  refine ⟨hname, options, dataFields, objectFields, hbody, ?_, ?_, ?_⟩
  · simp [Message.lines, MessageBody.lines, hbody, hname]
  · exact (inheritedFields_of_numberAll hk hc ha hchain dataBefore_iff
      (fun p _ => dataDraft_shown _ p) hd).imp fun _ _ => RendersData.writes
  · exact (inheritedFields_of_numberAll hk hc ha hchain objectBefore_iff
      (fun p _ => objectDraft_shown _ p) ho).imp fun _ _ => RendersObject.writes

/-- Three classes, each below the one before it. The first two have a data property each, that of the
second with a comment; the third refers to the second, which is the root. -/
def inheriting : Ontology :=
  let a : OntClass :=
    { iri := "urn:/A", name := "A", children := ["urn:/B"]
      dataProperties := [{ iri := "urn:/p", type := "string", name := "p", owner := "urn:/A" }] }
  let b : OntClass :=
    { iri := "urn:/B", name := "B", parent := some "urn:/A", children := ["urn:/C"]
      dataProperties :=
        [{ iri := "urn:/q", type := "string", name := "q", comment := some "How large\nit is."
           owner := "urn:/B" }] }
  let c : OntClass :=
    { iri := "urn:/C", name := "C", parent := some "urn:/B"
      objectProperties :=
        [{ iri := "urn:/to", name := "to", owner := "urn:/C", target := "urn:/B"
           targetName := "B" }] }
  ((Ontology.insert { root := "urn:/B" } a).insert b).insert c

/-- The third class has what the root declares, and nothing from above it. -/
theorem record_inheriting : inheriting.Keyed ∧ ∃ schema,
    (ofOntology ({} : SchemaOptions).ascending inheriting).result = .ok schema ∧
      schema.messages.getLast?.map (fun m => m.fields.flatMap Field.lines) = some
        ["\t// How large", "\t// it is.", "\tstring q = 1 [", "\t\t(owl.property).iri = \"urn:/q\",",
          "\t\t(owl.property).parent = \"owl:topDataProperty\",",
          "\t\t(owl.property).class_iri = \"urn:/B\"", "\t];",
          "\trepeated string b_ids = 2 [", "\t\t(owl.property).iri = \"urn:/to\",",
          "\t\t(owl.property).parent = \"owl:topObjectProperty\",",
          "\t\t(owl.property).class_iri = \"urn:/C\"", "\t];"] ∧
      schema.text =
        Text.unlines schema.headLines ++ Text.unlines (schema.messages.flatMap Message.lines) ∧
      List.Forall₂
        (fun c m => c.children = [] → m.name = c.name ∧
          RecordsInherited ({} : SchemaOptions).ascending inheriting c m)
        inheriting.classes.values schema.messages := by
  have hempty : ({ root := "urn:/B" } : Ontology).Keyed := fun _ _ hc => nomatch hc
  have hk : inheriting.Keyed := ((hempty.insert _).insert _).insert _
  let fields : List Field :=
    [{ shape := { type := "string", name := "q" }, number := 1, comments := ["How large", "it is."]
       options := [.iri "urn:/q", .parent "owl:topDataProperty", .classIri "urn:/B"] },
     { shape := { label := some .repeated, type := "string", name := "b_ids" }, number := 2
       options := [.iri "urn:/to", .parent "owl:topObjectProperty", .classIri "urn:/C"] }]
  have hfields : (ofOntology ({} : SchemaOptions).ascending inheriting).result.map
      (fun schema => schema.messages.getLast?.map (·.fields)) = .ok (some fields) := by
    cbv
  obtain ⟨schema, h, hfields⟩ := exists_of_result_map hfields
  have htext := congrArg (Option.map fun fs => fs.flatMap Field.lines) hfields
  rw [Option.map_map] at htext
  refine ⟨hk, schema, h, htext.trans ?_, record_inherits hk h⟩
  decide +kernel

end Schema

end OntologySchema
