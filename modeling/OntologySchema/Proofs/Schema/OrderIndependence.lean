import Mathlib
import OntologySchema.Proofs.Ontology.Axioms
import OntologySchema.Proofs.Ontology.Declarations
import OntologySchema.Proofs.Schema.Inheritance
import OntologySchema.Proofs.Schema.Simulation

/-!
# The order of a document

The declarations of a document may be given in any order, and so may its axioms, but for those of two
classes, of which the first that gives a class a parent counts. The schema is the same
(`schema_of_reordered`): the ontology before its axioms is the same, after its axioms it is the same but for
the order of properties, and the properties of a message are sorted. Two things are asked for. What is
sorted has to be told apart by what it is sorted by; and an identifier that is declared as the IRI of a
property and as an abbreviation has to suggest one name, since the first declaration counts
(`schema_of_spelledTwice`).
-/

namespace OntologySchema

/-- No class without children has two data properties of one display name, or two object properties of
one target name and display name. -/
def Ontology.PropertiesDistinct (o : Ontology) : Prop :=
  ∀ c ∈ o.classes.values, c.children = [] →
    (∀ ps, (o.allDataProperties c.iri).result = .ok ps → (ps.map (·.name)).Nodup) ∧
      ∀ ps, (o.allObjectProperties c.iri).result = .ok ps →
        (ps.map fun p => (p.targetName, p.name)).Nodup

namespace Schema

open Attempt Ontology

variable {s : SchemaOptions} {o o' : Ontology} {c c' : OntClass}

/-- What is read off lists of classes is reordered if what is read off each class is. -/
theorem flatMap_perm {α : Type} {has : OntClass → List α} {chain chain' : List OntClass}
    (h : List.Forall₂ (fun c c' => (has c').Perm (has c)) chain chain') :
    (chain'.flatMap has).Perm (chain.flatMap has) := by
  induction h with
  | nil => exact .nil
  | cons hc _ ih =>
    rw [List.flatMap_cons, List.flatMap_cons]
    exact hc.append ih

theorem partsAlike_of_reordered (h : Resembles OntClass.Reordered o o') (hc : c.Reordered c')
    (hdata : ∀ ps, (o.allDataProperties c.iri).result = .ok ps → (ps.map (·.name)).Nodup)
    (hobject : ∀ ps, (o.allObjectProperties c.iri).result = .ok ps →
      (ps.map fun p => (p.targetName, p.name)).Nodup) :
    PartsAlike Eq Eq s s o o' c c' := by
  refine ⟨fun names _ => messageOptions_alike h hc names, fun names => ?_, fun names => ?_⟩
  · have hperm : Alike (fun ps ps' => ps'.Perm ps) (o.allDataProperties c.iri)
        (o'.allDataProperties c.iri) :=
      (h.inheritanceChain c.iri).bind fun _ _ _ _ hchain =>
        .pure (flatMap_perm (hchain.imp fun _ _ hc => hc.data))
    rw [hc.iri_eq]
    refine hperm.imp fun ps ps' hps _ hperm => ?_
    rw [StablySorted.mergeSort_eq_of_perm dataBefore_iff hperm (hdata ps hps)]
    exact List.forall₂_same.2 fun p _ => dataDraft_alike h rfl fun _ _ _ => rfl
  · have hperm : Alike (fun ps ps' => ps'.Perm ps) (o.allObjectProperties c.iri)
        (o'.allObjectProperties c.iri) :=
      (h.inheritanceChain c.iri).bind fun _ _ _ _ hchain =>
        .pure (flatMap_perm (hchain.imp fun _ _ hc => hc.object))
    rw [hc.iri_eq]
    refine hperm.imp fun ps ps' hps _ hperm => ?_
    have hkeys : (ps.map ObjectProperty.key).Nodup := by
      have hmap := (hobject ps hps).map toLex.injective
      rwa [List.map_map] at hmap
    rw [StablySorted.mergeSort_eq_of_perm objectBefore_iff hperm hkeys]
    exact List.forall₂_same.2 fun p _ => objectDraft_alike h rfl fun _ _ _ => rfl

/-- Ontologies that are equal but for the order of properties have the same schema, or none for the same
reason. -/
theorem ofOntology_alike_of_reordered (h : Resembles OntClass.Reordered o o')
    (hdistinct : o.PropertiesDistinct) : Alike Eq (ofOntology s o) (ofOntology s o') := by
  have hmessage : ∀ c ∈ o.classes.values, ∀ c' ∈ o'.classes.values, c.Reordered c' →
      Alike Eq (messageOf s o c) (messageOf s o' c') := by
    intro c hmem c' _ hc
    have hcomments : c.comments.flatMap Text.lines = c'.comments.flatMap Text.lines := by
      rw [hc.comments_eq]
    have hparts : c.children = [] → PartsAlike Eq Eq s s o o' c c' := fun hleaf =>
      partsAlike_of_reordered h hc (hdistinct c hmem hleaf).1 (hdistinct c hmem hleaf).2
    have halike := messageOf_alike h rfl (fun _ _ => rfl) hc hcomments hparts
    exact halike.imp fun _ _ _ _ hm => hm.eq
  exact ofOntology_alike_eq h hmessage

/-- In a document each declaration declares one entity, and each property in one form; the names agree that
an identifier suggests as the IRI of a property and as an abbreviation. If the declarations are given in
another order, and the axioms in another in which those of two classes follow one another as before, the
ontology has the same schema, or none for the same reason, provided that it tells the properties of each
class without children apart. -/
theorem schema_of_reordered (d : Document) (declarations : List Declaration)
    (axioms : List SubclassAxiom) (root : String) (s : SchemaOptions) (hd : d.DeclaresSimply)
    (hn : d.NamesAgree) (hdeclarations : declarations.Perm d.declarations)
    (haxioms : axioms.Perm d.axioms)
    (htwo : (axioms.filter fun a => a.classes.length = 2) =
      d.axioms.filter fun a => a.classes.length = 2)
    (hdistinct : (Ontology.ofDocument root d).value.PropertiesDistinct) :
    (ofOntology s (Ontology.ofDocument root { d with declarations, axioms }).value).result =
      (ofOntology s (Ontology.ofDocument root d).value).result := by
  have hresembles : Resembles OntClass.Reordered (Ontology.ofDocument root d).value
      (Ontology.ofDocument root { d with declarations, axioms }).value := by
    rw [value_ofDocument, value_ofDocument, described_eq_of_perm hd hn hdeclarations axioms root]
    exact resembles_foldl_attach _ haxioms htwo
  exact (ofOntology_alike_of_reordered hresembles hdistinct).result_eq

/-- Where no class but one is without children, the properties of this one are to be told apart. -/
theorem propertiesDistinct_of_single (a : OntClass) (data : List DataProperty)
    (object : List ObjectProperty) (ha : ∀ c ∈ o.classes.values, c.children = [] → c = a)
    (hdata : (o.allDataProperties a.iri).result = .ok data) (hnames : (data.map (·.name)).Nodup)
    (hobject : (o.allObjectProperties a.iri).result = .ok object)
    (hpairs : (object.map fun p => (p.targetName, p.name)).Nodup) : o.PropertiesDistinct := by
  intro c hc hleaf
  obtain rfl := ha c hc hleaf
  refine ⟨fun ps hps => ?_, fun ps hps => ?_⟩
  · cases hdata.symm.trans hps
    exact hnames
  · cases hobject.symm.trans hps
    exact hpairs

/-- The names of the fields of each message. -/
def fieldNames (schema : Schema) : List (List String) :=
  schema.messages.map fun m => m.fields.map (·.shape.name)

/-- A class with three properties, below another class. -/
def apiOnHost : Document where
  prefixDeclarations := [{ name := "ex", iri := "urn:/" }]
  declarations :=
    [{ class? := some { iri := some "urn:/Host" } }, { class? := some { iri := some "urn:/Api" } },
     { dataProperty? := some { iri := some "urn:/name" } },
     { dataProperty? := some { abbreviated := some "ex:zone" } },
     { objectProperty? := some { abbreviated := some "ex:to" } }]
  axioms :=
    [{ classes := [{ iri := some "urn:/Api" }]
       dataValue := [{ property := { iri := some "urn:/zone" }, literal := "string" }] },
     { classes := [{ iri := some "urn:/Api" }, { iri := some "urn:/Host" }] },
     { classes := [{ iri := some "urn:/Api" }]
       dataValue := [{ property := { iri := some "urn:/name" }, literal := "string" }] },
     { classes := [{ iri := some "urn:/Api" }]
       objectSome :=
        [{ property := { iri := some "urn:/to" }, target := { iri := some "urn:/Host" } }] }]

/-- The class in its ontology that has no children. -/
def apiClass : OntClass where
  iri := "urn:/Api"
  name := "Api"
  parent := some "urn:/Host"
  dataProperties := ["zone", "name"].map fun name =>
    { iri := "urn:/" ++ name, type := "string", name, owner := "urn:/Api" }
  objectProperties :=
    [{ iri := "urn:/to", name := "to", owner := "urn:/Api", target := "urn:/Host"
       targetName := "Host" }]

theorem value_apiOnHost : (Ontology.ofDocument "" apiOnHost).value =
    { classes := .ofList
        [("urn:/Api", apiClass),
         ("urn:/Host", { iri := "urn:/Host", name := "Host", children := ["urn:/Api"] })]
      properties := .ofList
        [("urn:/name", { iri := "urn:/name", name := "name" }),
         ("ex:zone", { iri := "ex:zone", name := "zone" }),
         ("ex:to", { iri := "ex:to", name := "to" })]
      prefixes := .ofList [("ex", "urn:/")] } := by
  decide

theorem propertiesDistinct_apiOnHost :
    (Ontology.ofDocument "" apiOnHost).value.PropertiesDistinct := by
  rw [value_apiOnHost]
  have hleaf : ∀ c ∈ (Table.ofList [("urn:/Api", apiClass),
      ("urn:/Host", { iri := "urn:/Host", name := "Host", children := ["urn:/Api"] })]).values,
      c.children = [] → c = apiClass := by
    decide
  exact propertiesDistinct_of_single apiClass apiClass.dataProperties apiClass.objectProperties hleaf
    (by cbv) (by decide) (by cbv) (by decide)

theorem fieldNames_apiOnHost :
    (ofOntology ({} : SchemaOptions).ascending
      (Ontology.ofDocument "" apiOnHost).value).result.map fieldNames =
        .ok [["name", "zone", "hosts"], ["api"]] := by
  rw [value_apiOnHost]
  cbv

theorem schema_of_reordered_apiOnHost : apiOnHost.DeclaresSimply ∧ apiOnHost.NamesAgree ∧
    (Ontology.ofDocument "" apiOnHost).value.PropertiesDistinct ∧
    (Ontology.ofDocument "" { apiOnHost with
        declarations := apiOnHost.declarations.reverse
        axioms := apiOnHost.axioms.reverse }).value ≠ (Ontology.ofDocument "" apiOnHost).value ∧
    (ofOntology ({} : SchemaOptions).ascending (Ontology.ofDocument "" { apiOnHost with
        declarations := apiOnHost.declarations.reverse
        axioms := apiOnHost.axioms.reverse }).value).result.map fieldNames =
      .ok [["name", "zone", "hosts"], ["api"]] := by
  have hd : apiOnHost.DeclaresSimply := ⟨by decide, by decide⟩
  have hn : apiOnHost.NamesAgree := by decide +kernel
  have hresult := schema_of_reordered apiOnHost _ _ "" ({} : SchemaOptions).ascending hd hn
    (List.reverse_perm _) (List.reverse_perm _) rfl propertiesDistinct_apiOnHost
  refine ⟨hd, hn, propertiesDistinct_apiOnHost, by decide +kernel, ?_⟩
  rw [hresult]
  exact fieldNames_apiOnHost

/-- A class with a property whose identifier is declared as an IRI and as an abbreviation. -/
def spelledTwice : Document where
  declarations :=
    [{ class? := some { iri := some "urn:/A" } },
     { dataProperty? := some { iri := some "urn:p" } },
     { dataProperty? := some { abbreviated := some "urn:p" } }]
  axioms :=
    [{ classes := [{ iri := some "urn:/A" }]
       dataValue := [{ property := { iri := some "urn:p" }, literal := "string" }] }]

/-- The property of its class, with a name. -/
def spelledTwiceProperty (name : String) : DataProperty where
  iri := "urn:p"
  type := "string"
  name := name
  owner := "urn:/A"

/-- Its ontology, with a name for the property. -/
def spelledTwiceOntology (name : String) : Ontology where
  classes := .ofList
    [("urn:/A", { iri := "urn:/A", name := "A", dataProperties := [spelledTwiceProperty name] })]
  properties := .ofList [("urn:p", { iri := "urn:p", name })]

theorem value_spelledTwice : (Ontology.ofDocument "" spelledTwice).value =
      spelledTwiceOntology "urn:p" ∧
    (Ontology.ofDocument "" { spelledTwice with
      declarations := spelledTwice.declarations.reverse }).value = spelledTwiceOntology "p" := by
  decide

theorem fieldNames_spelledTwice :
    (ofOntology ({} : SchemaOptions).ascending (spelledTwiceOntology "urn:p")).result.map fieldNames =
      .ok [["urn:p"]] := by
  cbv

theorem fieldNames_spelledTwice_reverse :
    (ofOntology ({} : SchemaOptions).ascending (spelledTwiceOntology "p")).result.map fieldNames =
      .ok [["p"]] := by
  cbv

/-- The name of a property is that which its first declaration suggests, so without names that agree the
order of declarations counts. -/
theorem schema_of_spelledTwice : spelledTwice.DeclaresSimply ∧
    (∀ x ∈ spelledTwice.declarations, ∀ r ∈ x.property?, r.iri.isSome ≠ r.abbreviated.isSome) ∧
    (Ontology.ofDocument "" spelledTwice).value.PropertiesDistinct ∧
    (ofOntology ({} : SchemaOptions).ascending (Ontology.ofDocument "" { spelledTwice with
        declarations := spelledTwice.declarations.reverse }).value).result ≠
      (ofOntology ({} : SchemaOptions).ascending
        (Ontology.ofDocument "" spelledTwice).value).result := by
  obtain ⟨hvalue, hreverse⟩ := value_spelledTwice
  rw [hvalue, hreverse]
  refine ⟨⟨by decide, by decide⟩, by decide, ?_, fun hresult => ?_⟩
  · have hleaf : ∀ c ∈ (spelledTwiceOntology "urn:p").classes.values, c.children = [] → c =
        { iri := "urn:/A", name := "A", dataProperties := [spelledTwiceProperty "urn:p"] } := by
      decide +kernel
    exact propertiesDistinct_of_single _ [spelledTwiceProperty "urn:p"] [] hleaf (by cbv) (by decide)
      (by cbv) (by decide)
  · have hnames := fieldNames_spelledTwice
    rw [← hresult, fieldNames_spelledTwice_reverse] at hnames
    exact absurd hnames (by decide)

end Schema

end OntologySchema
