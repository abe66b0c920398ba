import OntologySchema.Proofs.Hierarchy.Resemblance
import OntologySchema.Proofs.Ontology.Edits
import OntologySchema.Proofs.Table

/-!
# The order of axioms

An axiom of two classes links them, or does nothing (`withLink`); an axiom of one class with restrictions
gives the class properties (`gains`). What an axiom gives depends on names only, which no axiom changes, and
whether it links depends on links only. So the axioms of a document may be taken apart: first all links are
made in their order, then all properties are given in theirs (`foldl_attach`). Properties given in another
order end up in the same classes in another order (`resembles_foldl_gain`).
-/

namespace OntologySchema

/-- A property that an axiom gives to the class that owns it. -/
inductive Gain where
  | data (p : DataProperty)
  | object (p : ObjectProperty)
  deriving DecidableEq

namespace Gain

/-- The class that gets the property. -/
def owner : Gain → String
  | .data p => p.owner
  | .object p => p.owner

/-- The property, if it is a data property. -/
def data? : Gain → Option DataProperty
  | .data p => some p
  | .object _ => none

/-- The property, if it is an object property. -/
def object? : Gain → Option ObjectProperty
  | .data _ => none
  | .object p => some p

end Gain

namespace OntClass

/-- A class with one more property. -/
def gain (c : OntClass) : Gain → OntClass
  | .data p => { c with dataProperties := c.dataProperties ++ [p] }
  | .object p => { c with objectProperties := c.objectProperties ++ [p] }

/-- What a class gains stands in its order after what the class had. -/
theorem foldl_gain (gs : List Gain) (c : OntClass) :
    gs.foldl gain c =
      { c with
        dataProperties := c.dataProperties ++ gs.filterMap Gain.data?
        objectProperties := c.objectProperties ++ gs.filterMap Gain.object? } := by
  induction gs generalizing c with
  | nil => simp
  | cons g gs ih =>
    rw [List.foldl_cons, ih, List.filterMap_cons, List.filterMap_cons]
    cases g <;> simp [gain, Gain.data?, Gain.object?]

/-- The classes are equal but for the order of their properties. -/
structure Reordered (c c' : OntClass) : Prop extends SamePlace c c' where
  comments_eq : c'.comments = c.comments
  data : c'.dataProperties.Perm c.dataProperties
  object : c'.objectProperties.Perm c.objectProperties

theorem reordered_foldl_gain (c : OntClass) {gs gs' : List Gain} (h : gs'.Perm gs) :
    (gs.foldl gain c).Reordered (gs'.foldl gain c) := by
  rw [foldl_gain, foldl_gain]
  exact ⟨⟨rfl, rfl, rfl, rfl⟩, rfl, (h.filterMap _).append_left _, (h.filterMap _).append_left _⟩

end OntClass

namespace Ontology

variable {rv : Resolver} {o o' o'' : Ontology}

/-- Give a property to the class that owns it. -/
def gain (o : Ontology) (g : Gain) : Ontology := o.modify g.owner (·.gain g)

/-! ### Names -/

/-- The ontologies have classes of the same names, the same property entries and the same individuals. -/
structure SameNames (o o' : Ontology) : Prop where
  properties_eq : o'.properties = o.properties
  individuals_eq : o'.individuals = o.individuals
  name_eq : ∀ k, (o'.find? k).map (·.name) = (o.find? k).map (·.name)

namespace SameNames

theorem refl (o : Ontology) : SameNames o o := ⟨rfl, rfl, fun _ => rfl⟩

theorem trans (h : SameNames o o') (h' : SameNames o' o'') : SameNames o o'' where
  properties_eq := h'.properties_eq.trans h.properties_eq
  individuals_eq := h'.individuals_eq.trans h.individuals_eq
  name_eq := fun k => (h'.name_eq k).trans (h.name_eq k)

theorem modify (o : Ontology) (k : String) {f : OntClass → OntClass} (hf : ∀ c, (f c).name = c.name) :
    SameNames o (o.modify k f) where
  properties_eq := rfl
  individuals_eq := rfl
  name_eq := fun j => by
    rw [find?_modify]
    split
    · simp [Function.comp_def, hf]
    · rfl

theorem contains_eq (h : SameNames o o') (k : String) :
    o'.classes.contains k = o.classes.contains k := by
  have hsome := congrArg Option.isSome (h.name_eq k)
  rwa [Option.isSome_map, Option.isSome_map] at hsome

theorem dataProperty_eq (h : SameNames o o') (owner : String) (r : Reference)
    (identifier datatype : String) :
    o'.dataProperty rv owner r identifier datatype =
      o.dataProperty rv owner r identifier datatype := by
  simp only [dataProperty, propertyName, propertyComment?, property?, h.properties_eq]

end SameNames

theorem sameNames_gain (o : Ontology) (g : Gain) : SameNames o (o.gain g) :=
  .modify o _ fun _ => by cases g <;> rfl

theorem sameNames_link (o : Ontology) (child parent : String) : SameNames o (o.link child parent) := by
  have hchild : ∀ c : OntClass, (c.addChild child).name = c.name := by
    intro c
    unfold OntClass.addChild
    split <;> rfl
  exact (SameNames.modify o child (f := ({ · with parent := some parent })) fun _ => rfl).trans
    (.modify _ parent hchild)

/-- No axiom changes names. -/
theorem Edits.sameNames (h : Edits o o') : SameNames o o' := by
  induction h with
  | refl => exact .refl o
  | tail _ he ih =>
    refine ih.trans ?_
    cases he with
    | link => exact sameNames_link _ _ _
    | data => exact .modify _ _ fun _ => rfl
    | object => exact .modify _ _ fun _ => rfl

/-! ### What restrictions give -/

/-- What a data property with a datatype gives its class. -/
def dataSomeGain? (rv : Resolver) (owner : String) (o : Ontology) (s : DataSome) : Option Gain :=
  let r := s.property.present
  r.identifier?.bind fun identifier => (s.datatype?.bind (datatypeName? rv)).map fun datatype =>
    .data (o.dataProperty rv owner r identifier datatype)

/-- What a data property with a literal gives its class. -/
def dataValueGain? (rv : Resolver) (owner : String) (o : Ontology) (s : DataValue) : Option Gain :=
  let r := s.property.present
  r.identifier?.map fun identifier =>
    .data (o.dataProperty rv owner r identifier (Text.trim s.literal))

/-- What an object property with a target gives its class. -/
def objectSomeGain? (rv : Resolver) (owner : String) (o : Ontology) (s : ObjectSome) : Option Gain :=
  let r := s.property.present
  r.identifier?.bind fun identifier => (rv.canonical? s.target.present).bind fun target =>
    ((o.find? target).map (·.name)).map fun targetName =>
      .object
        { iri := identifier, name := o.propertyName rv r, owner, target, targetName
          comment := o.propertyComment? rv r }

/-- What an object property with an individual gives its class. -/
def objectValueGain? (rv : Resolver) (owner : String) (o : Ontology) (s : ObjectValue) :
    Option Gain :=
  let r := s.property.present
  r.identifier?.bind fun identifier => s.individual.present.identifier?.map fun individual =>
    .data (o.dataProperty rv owner r identifier
      (((o.individual? (rv.lookupKeys s.individual.present)).bind (·.type)).getD individual))

/-- To take in a restriction is to give what it gives, and that depends on names only. -/
structure Gives {α : Type} (attach : String → Ontology → α → Logged Ontology)
    (gain? : String → Ontology → α → Option Gain) : Prop where
  value : ∀ owner o r, (attach owner o r).value = (gain? owner o r).toList.foldl gain o
  names : ∀ {o o'}, SameNames o o' → ∀ owner, gain? owner o' = gain? owner o

theorem gives_dataSome (rv : Resolver) : Gives (attachDataSome rv) (dataSomeGain? rv) where
  value := fun owner o s => by
    unfold attachDataSome dataSomeGain?
    dsimp only
    cases s.property.present.identifier? with
    | none => rfl
    | some identifier => cases s.datatype?.bind (datatypeName? rv) <;> rfl
  names := fun h owner => by
    funext s
    simp only [dataSomeGain?, h.dataProperty_eq]

theorem gives_dataValue (rv : Resolver) : Gives (attachDataValue rv) (dataValueGain? rv) where
  value := fun owner o s => by
    unfold attachDataValue dataValueGain?
    dsimp only
    cases s.property.present.identifier? <;> rfl
  names := fun h owner => by
    funext s
    simp only [dataValueGain?, h.dataProperty_eq]

theorem gives_objectSome (rv : Resolver) : Gives (attachObjectSome rv) (objectSomeGain? rv) where
  value := fun owner o s => by
    unfold attachObjectSome objectSomeGain?
    dsimp only
    cases s.property.present.identifier? with
    | none => rfl
    | some identifier =>
      dsimp only [Option.bind_some]
      rw [Logged.value_bind, value_canonical]
      cases rv.canonical? s.target.present with
      | none => rfl
      | some target =>
        dsimp only [Option.bind_some]
        cases o.find? target <;> rfl
  names := fun h owner => by
    funext s
    simp only [objectSomeGain?, propertyName, propertyComment?, property?, h.properties_eq, h.name_eq]

theorem gives_objectValue (rv : Resolver) : Gives (attachObjectValue rv) (objectValueGain? rv) where
  value := fun owner o s => by
    unfold attachObjectValue objectValueGain?
    dsimp only
    cases s.property.present.identifier? with
    | none => rfl
    | some identifier => cases s.individual.present.identifier? <;> rfl
  names := fun h owner => by
    funext s
    simp only [objectValueGain?, individual?, h.individuals_eq, h.dataProperty_eq]

/-! ### What axioms give -/

/-- What restrictions of a class give it, if the class was declared. -/
def gainsOf {α : Type} (rv : Resolver) (o : Ontology) (subject : Reference)
    (gain? : String → Ontology → α → Option Gain) (restrictions : List α) : List Gain :=
  ((rv.canonical? subject.present).filter o.classes.contains).toList.flatMap fun owner =>
    restrictions.filterMap (gain? owner o)

/-- What an axiom gives. -/
def gains (rv : Resolver) (o : Ontology) (a : SubclassAxiom) : List Gain :=
  match a.shape? with
  | some (.dataSome subject rs) => gainsOf rv o subject (dataSomeGain? rv) rs
  | some (.dataValue subject rs) => gainsOf rv o subject (dataValueGain? rv) rs
  | some (.objectSome subject rs) => gainsOf rv o subject (objectSomeGain? rv) rs
  | some (.objectValue subject rs) => gainsOf rv o subject (objectValueGain? rv) rs
  | some (.subclass _ _) => []
  | none => []

/-- The ontology after the link that an axiom makes, if it makes one. -/
def withLink (rv : Resolver) (o : Ontology) (a : SubclassAxiom) : Ontology :=
  match a.shape? with
  | some (.subclass subject parent) => (o.attachParent rv subject.present parent.present).value
  | _ => o

theorem gainsOf_eq {α : Type} {attach : String → Ontology → α → Logged Ontology}
    {gain? : String → Ontology → α → Option Gain} (hg : Gives attach gain?) (h : SameNames o o')
    (subject : Reference) (rs : List α) :
    gainsOf rv o' subject gain? rs = gainsOf rv o subject gain? rs := by
  have hcontains : o'.classes.contains = o.classes.contains := funext h.contains_eq
  simp only [gainsOf, hcontains, hg.names h]

/-- What axioms give depends on names only. -/
theorem gains_eq (h : SameNames o o') : gains rv o' = gains rv o := by
  funext a
  unfold gains
  split
  · exact gainsOf_eq (gives_dataSome rv) h _ _
  · exact gainsOf_eq (gives_dataValue rv) h _ _
  · exact gainsOf_eq (gives_objectSome rv) h _ _
  · exact gainsOf_eq (gives_objectValue rv) h _ _
  · rfl
  · rfl

theorem sameNames_foldl_gain (gs : List Gain) (o : Ontology) : SameNames o (gs.foldl gain o) := by
  induction gs generalizing o with
  | nil => exact .refl o
  | cons g gs ih => exact (sameNames_gain o g).trans (ih _)

theorem value_attachAll {α : Type} {attach : String → Ontology → α → Logged Ontology}
    {gain? : String → Ontology → α → Option Gain} (hg : Gives attach gain?) (o : Ontology)
    (subject : Reference) (rs : List α) :
    (o.attachAll rv subject attach rs).value = (gainsOf rv o subject gain? rs).foldl gain o := by
  have hfold : ∀ (owner : String) (rs : List α) (o : Ontology),
      rs.foldl (fun o r => (attach owner o r).value) o = (rs.filterMap (gain? owner o)).foldl gain o := by
    intro owner rs
    induction rs with
    | nil => exact fun _ => rfl
    | cons r rs ih =>
      intro o
      rw [List.foldl_cons, ih, hg.value, hg.names (sameNames_foldl_gain _ o), ← List.foldl_append,
        List.filterMap_cons]
      cases gain? owner o r <;> rfl
  unfold attachAll gainsOf
  rw [Logged.value_bind, value_declaredClass]
  cases (rv.canonical? subject.present).filter o.classes.contains with
  | none => rfl
  | some owner =>
    simp only [Logged.value_foldlM, hfold, Option.toList_some, List.flatMap_singleton]

/-- An axiom makes its link and gives what it gives. -/
theorem value_attach (o : Ontology) (a : SubclassAxiom) :
    (attach rv o a).value = (gains rv o a).foldl gain (withLink rv o a) := by
  unfold attach gains withLink
  cases a.shape? with
  | none => rfl
  | some shape =>
    cases shape with
    | subclass subject parent => rfl
    | dataSome subject rs => exact value_attachAll (gives_dataSome rv) o subject rs
    | dataValue subject rs => exact value_attachAll (gives_dataValue rv) o subject rs
    | objectSome subject rs => exact value_attachAll (gives_objectSome rv) o subject rs
    | objectValue subject rs => exact value_attachAll (gives_objectValue rv) o subject rs

/-! ### Links and gains -/

theorem contains_gain (o : Ontology) (g : Gain) (k : String) :
    (o.gain g).classes.contains k = o.classes.contains k := (sameNames_gain o g).contains_eq k

theorem parent_gain (o : Ontology) (g : Gain) (k : String) :
    ((o.gain g).find? k).bind (·.parent) = (o.find? k).bind (·.parent) := by
  have hparent : ∀ c : OntClass, (c.gain g).parent = c.parent := fun c => by cases g <;> rfl
  rw [gain, find?_modify]
  split
  · simp [Option.bind_map, hparent]
  · rfl

theorem link_gain (o : Ontology) (g : Gain) (child parent : String) :
    (o.gain g).link child parent = (o.link child parent).gain g := by
  have hparent : ∀ c : OntClass,
      { c.gain g with parent := some parent } = { c with parent := some parent }.gain g := by
    intro c
    cases g <;> rfl
  have hchild : ∀ c : OntClass, (c.gain g).addChild child = (c.addChild child).gain g := by
    intro c
    cases g <;> unfold OntClass.addChild OntClass.gain <;> dsimp only <;> split <;> rfl
  have hmodify : ∀ (o : Ontology) (k : String) (f : OntClass → OntClass),
      (∀ c, f (c.gain g) = (f c).gain g) → (o.gain g).modify k f = (o.modify k f).gain g := by
    intro o k f hf
    unfold gain modify
    rw [Table.modify_comm fun c => (hf c).symm]
  unfold link
  rw [hmodify o child _ hparent, hmodify _ parent _ hchild]

theorem attachParent_gain (o : Ontology) (g : Gain) (subject parent : Reference) :
    ((o.gain g).attachParent rv subject parent).value =
      (o.attachParent rv subject parent).value.gain g := by
  unfold attachParent
  split
  · rfl
  · rw [Logged.value_bind, Logged.value_bind, value_canonical]
    split
    · rfl
    · next parentIri _ =>
      split
      · rfl
      · rw [Logged.value_bind, Logged.value_bind, value_declaredClass, value_declaredClass,
          funext (contains_gain o g)]
        split
        · rfl
        · next child _ =>
          split
          · rfl
          · split
            · rfl
            · rw [parent_gain]
              split
              · rfl
              · exact link_gain o g child parentIri

/-- It does not matter whether a link is made before properties are given or after. -/
theorem withLink_foldl_gain (gs : List Gain) (o : Ontology) (a : SubclassAxiom) :
    withLink rv (gs.foldl gain o) a = gs.foldl gain (withLink rv o a) := by
  induction gs generalizing o with
  | nil => rfl
  | cons g gs ih =>
    rw [List.foldl_cons, List.foldl_cons, ih]
    congr 1
    unfold withLink
    split
    · exact attachParent_gain o g _ _
    · rfl

theorem foldl_withLink_foldl_gain (as : List SubclassAxiom) (gs : List Gain) (o : Ontology) :
    as.foldl (withLink rv) (gs.foldl gain o) = gs.foldl gain (as.foldl (withLink rv) o) := by
  induction as generalizing o with
  | nil => rfl
  | cons a as ih => rw [List.foldl_cons, List.foldl_cons, withLink_foldl_gain, ih]

/-- Axioms make all their links and give all that they give. -/
theorem foldl_attach (as : List SubclassAxiom) (o : Ontology) :
    as.foldl (fun o a => (attach rv o a).value) o =
      (as.flatMap (gains rv o)).foldl gain (as.foldl (withLink rv) o) := by
  induction as generalizing o with
  | nil => rfl
  | cons a as ih =>
    -- what the other axioms give is the same after the first one, and the links of the others are made
    -- before what the first one gives
    rw [List.foldl_cons, ih, gains_eq (edits_attach o a).sameNames, value_attach,
      foldl_withLink_foldl_gain, ← List.foldl_append, List.flatMap_cons, List.foldl_cons]

/-- Only axioms of two classes make links. -/
theorem foldl_withLink_filter (as : List SubclassAxiom) (o : Ontology) :
    (as.filter fun a => a.classes.length = 2).foldl (withLink rv) o = as.foldl (withLink rv) o := by
  have hkept : ∀ (o : Ontology) (a : SubclassAxiom), a.classes.length ≠ 2 → withLink rv o a = o := by
    intro o a ha
    unfold withLink SubclassAxiom.shape?
    grind
  rw [List.foldl_filter]
  congr 1
  funext o a
  split
  · rfl
  · next ha => exact (hkept o a (by simpa using ha)).symm

/-! ### Axioms in another order -/

/-- Each class gains what it owns. -/
theorem entries_foldl_gain (gs : List Gain) (o : Ontology) :
    (gs.foldl gain o).classes.entries =
      o.classes.entries.map fun e => (e.1, (gs.filter (·.owner = e.1)).foldl OntClass.gain e.2) := by
  induction gs generalizing o with
  | nil => simp
  | cons g gs ih =>
    rw [List.foldl_cons, ih]
    simp only [gain, modify, Table.modify, List.map_map]
    refine List.map_congr_left fun e _ => ?_
    by_cases hk : e.1 = g.owner
    · simp [← hk]
    · simp [hk, Ne.symm hk]

theorem root_foldl_gain (gs : List Gain) (o : Ontology) :
    (gs.foldl gain o).root = o.root ∧ (gs.foldl gain o).prefixes = o.prefixes := by
  induction gs generalizing o with
  | nil => exact ⟨rfl, rfl⟩
  | cons g gs ih => exact ih _

/-- Properties given in another order are in the same classes, in another order. -/
theorem resembles_foldl_gain (o : Ontology) {gs gs' : List Gain} (h : gs'.Perm gs) :
    Resembles OntClass.Reordered (gs.foldl gain o) (gs'.foldl gain o) where
  isRoot_eq := fun hc =>
    isRoot_eq_of_place ((root_foldl_gain gs' o).1.trans (root_foldl_gain gs o).1.symm)
      ((root_foldl_gain gs' o).2.trans (root_foldl_gain gs o).2.symm) hc.toSamePlace
  prefixes_eq := (root_foldl_gain gs' o).2.trans (root_foldl_gain gs o).2.symm
  entries := by
    rw [entries_foldl_gain, entries_foldl_gain, List.forall₂_map_left_iff,
      List.forall₂_map_right_iff]
    exact List.forall₂_same.2 fun e _ => ⟨rfl, OntClass.reordered_foldl_gain e.2 (h.filter _)⟩
  place := OntClass.Reordered.toSamePlace

/-- Axioms in another order leave behind the same classes with their properties in another order, as long
as the axioms of two classes keep their order. -/
theorem resembles_foldl_attach (o : Ontology) {as as' : List SubclassAxiom} (h : as'.Perm as)
    (htwo : (as'.filter fun a => a.classes.length = 2) = as.filter fun a => a.classes.length = 2) :
    Resembles OntClass.Reordered (as.foldl (fun o a => (attach rv o a).value) o)
      (as'.foldl (fun o a => (attach rv o a).value) o) := by
  rw [foldl_attach, foldl_attach, ← foldl_withLink_filter as, ← foldl_withLink_filter as', htwo]
  exact resembles_foldl_gain _ (h.flatMap_right _)

end Ontology

end OntologySchema
