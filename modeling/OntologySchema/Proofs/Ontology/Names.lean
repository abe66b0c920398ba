import Mathlib.Data.List.Induction
import OntologySchema.Proofs.Ontology.Axioms
import OntologySchema.Proofs.Ontology.Entries

/-!
# Where names and comments come from

Of the labels of a class or a property the last gives the name, and all comments are kept in their order,
whatever else stands between them (`foldl_annotatedText`). An annotation is about the class that its subject
denotes; if there is none it is about a property, the first that is registered under one of the keys of its
subject (`Resolver.isAboutProperty`). Without a label the name is what an identifier suggests: that of the
class, or that of the first reference that declared the property (`find?_registerProperties`).

So the names and the comments in the ontology of a document are read off its declarations and annotations
(`names_ofDocument`). Axioms have no part in it.
-/

namespace OntologySchema

/-- The name that the last label among some annotations gives. -/
def lastLabel? (as : List Annotation) : Option String :=
  (as.filter (·.kind = .label)).getLast?.map fun a => Naming.clean (Text.trim a.literal)

/-- The comments among some annotations, in their order. -/
def commentsIn (as : List Annotation) : List String :=
  (as.filter (·.kind = .comment)).map fun a => Text.trim a.literal

/-- Whether an annotation is about the property that is registered under `k`: its subject is no class, and of
the keys of its subject `k` is the first that is registered. -/
def Resolver.isAboutProperty (rv : Resolver) (isClass isRegistered : String → Bool) (k : String)
    (a : Annotation) : Bool :=
  !(rv.canonical? a.subject).any isClass && (rv.lookupKeys a.subject).find? isRegistered = some k

/-- The annotations of a document that are about the class `k`. -/
def Document.classAnnotations (d : Document) (k : String) : List Annotation :=
  d.annotations.filter fun a => d.resolver.canonical? a.subject = some k

/-- The annotations of a document that are about the property `k`, where some keys are registered. -/
def Document.propertyAnnotations (d : Document) (isRegistered : String → Bool) (k : String) :
    List Annotation :=
  d.annotations.filter (d.resolver.isAboutProperty d.declaresClass isRegistered k)

theorem lastLabel?_concat (as : List Annotation) (a : Annotation) :
    lastLabel? (as ++ [a]) =
      if a.kind = .label then some (Naming.clean (Text.trim a.literal)) else lastLabel? as := by
  unfold lastLabel?
  rw [List.filter_append]
  by_cases h : a.kind = .label <;> simp [h]

theorem commentsIn_concat (as : List Annotation) (a : Annotation) :
    commentsIn (as ++ [a]) =
      commentsIn as ++ if a.kind = .comment then [Text.trim a.literal] else [] := by
  unfold commentsIn
  rw [List.filter_append, List.map_append]
  by_cases h : a.kind = .comment <;> simp [h]

namespace Ontology

variable {rv : Resolver} {o o' : Ontology} {root : String} {d : Document}

/-! ### One annotation after the other -/

/-- What an annotation makes of a name and comments. -/
def annotatedText (a : Annotation) (text : String × List String) : String × List String :=
  match a.kind with
  | .label => (Naming.clean (Text.trim a.literal), text.2)
  | .comment => (text.1, text.2 ++ [Text.trim a.literal])
  | .seeAlso => text
  | .other => text

/-- The last label counts, and every comment does. -/
theorem foldl_annotatedText (as : List Annotation) (text : String × List String) :
    as.foldl (fun text a => annotatedText a text) text =
      ((lastLabel? as).getD text.1, text.2 ++ commentsIn as) := by
  induction as using List.reverseRecOn with
  | nil => simp [lastLabel?, commentsIn]
  | append_singleton as a ih =>
    rw [List.foldl_append, ih, lastLabel?_concat, commentsIn_concat, List.foldl_cons, List.foldl_nil]
    unfold annotatedText
    cases a.kind <;> simp

/-- What takes in annotations by its name and comments ends up with the last label and all comments. -/
theorem foldl_of_annotatedText {α : Type} (make : String × List String → α) {step : Annotation → α → α}
    (hstep : ∀ text a, step a (make text) = make (annotatedText a text)) (text : String × List String)
    (as : List Annotation) :
    as.foldl (fun x a => step a x) (make text) =
      make ((lastLabel? as).getD text.1, text.2 ++ commentsIn as) := by
  rw [List.foldl_hom make hstep, foldl_annotatedText]

theorem foldl_annotated (k : String) (text : String × List String) (as : List Annotation) :
    as.foldl (fun c a => annotated a c) { iri := k, name := text.1, comments := text.2 } =
      { iri := k, name := (lastLabel? as).getD text.1, comments := text.2 ++ commentsIn as } := by
  refine foldl_of_annotatedText (fun text => ({ iri := k, name := text.1, comments := text.2 } : OntClass))
    (fun text a => ?_) text as
  unfold annotated annotatedText
  cases a.kind <;> rfl

theorem foldl_annotatedProperty (k : String) (text : String × List String) (as : List Annotation) :
    as.foldl (fun e a => annotatedProperty a e) { iri := k, name := text.1, comments := text.2 } =
      { iri := k, name := (lastLabel? as).getD text.1, comments := text.2 ++ commentsIn as } := by
  refine foldl_of_annotatedText
    (fun text => ({ iri := k, name := text.1, comments := text.2 } : PropertyEntry))
    (fun text a => ?_) text as
  unfold annotatedProperty annotatedText
  cases a.kind <;> rfl

/-! ### Which property an annotation is about -/

theorem find?_properties_annotate (rv : Resolver) (o : Ontology) (a : Annotation) (k : String) :
    (annotate rv o a).value.properties.find? k =
      if rv.isAboutProperty o.classes.contains o.properties.contains k a then
        (o.properties.find? k).map (annotatedProperty a)
      else o.properties.find? k := by
  rw [(entries_annotate rv o a).1]
  unfold Resolver.isAboutProperty
  by_cases hclass : (rv.canonical? a.subject).any o.classes.contains = true
  · simp [hclass]
  · rw [if_neg hclass, Table.find?_modifyFirst]
    simp [hclass]

/-- The properties after the second pass: each has taken in the annotations that are about it. -/
theorem find?_properties_annotations (k : String) (as : List Annotation) (o : Ontology) :
    (as.foldl (fun o a => (annotate rv o a).value) o).properties.find? k =
      (o.properties.find? k).map fun e =>
        (as.filter (rv.isAboutProperty o.classes.contains o.properties.contains k)).foldl
          (fun e a => annotatedProperty a e) e := by
  induction as generalizing o with
  | nil => simp
  | cons a as ih =>
    rw [List.foldl_cons, ih, contains_annotate, contains_properties_annotate,
      find?_properties_annotate]
    by_cases h : rv.isAboutProperty o.classes.contains o.properties.contains k a = true <;>
      simp [h, Function.comp_def]

theorem contains_annotations (as : List Annotation) (o : Ontology) :
    let o' := as.foldl (fun o a => (annotate rv o a).value) o
    o'.classes.contains = o.classes.contains ∧ o'.properties.contains = o.properties.contains := by
  induction as generalizing o with
  | nil => exact ⟨rfl, rfl⟩
  | cons a as ih =>
    obtain ⟨hclasses, hproperties⟩ := ih (annotate rv o a).value
    exact ⟨hclasses.trans (contains_annotate rv o a),
      hproperties.trans (contains_properties_annotate rv o a)⟩

/-! ### Which declaration a property takes its name from -/

/-- A property has the name that the first reference with its identifier suggests. -/
theorem find?_registerProperties (k : String) (rs : List Reference) (t : Table PropertyEntry) :
    (registerProperties t rs).find? k =
      (t.find? k).or (((rs.map Reference.present).find? (·.identifier? = some k)).map fun r =>
        { iri := k, name := Naming.clean r.derivedName }) := by
  induction rs generalizing t with
  | nil => simp [registerProperties]
  | cons r rs ih =>
    have hcons : registerProperties t (r :: rs) =
        registerProperties (t.insertNew? (entryOfProperty? (some r))) rs := rfl
    rw [hcons, ih, Table.find?_insertNew?, Option.or_assoc, List.map_cons, List.find?_cons]
    congr 1
    unfold entryOfProperty? Reference.suggestedName
    cases hr : r.present.identifier? with
    | none => simp [hr]
    | some identifier =>
      by_cases hk : identifier = k
      · simp [hr, hk]
      · simp [hr, hk, Option.filter_some]

/-- The properties before the axioms. -/
theorem find?_properties_described (root : String) (d : Document) (k : String) :
    (described root d).properties.find? k =
      (d.declaredProperties.find? (·.identifier? = some k)).map fun r =>
        let about := d.propertyAnnotations (described root d).properties.contains k
        { iri := k
          name := (lastLabel? about).getD (Naming.clean r.derivedName)
          comments := commentsIn about } := by
  let declared := d.declarations.foldl (fun o x => (declare d.resolver o x).value)
    { prefixes := d.prefixes, root }
  have hdescribed : described root d =
      d.annotations.foldl (fun o a => (annotate d.resolver o a).value) declared := rfl
  have hclasses : declared.classes.contains = d.declaresClass := by
    rw [← contains_described root d, hdescribed]
    exact (contains_annotations d.annotations declared).1.symm
  have hregistered : declared.properties.contains = (described root d).properties.contains := by
    rw [hdescribed]
    exact (contains_annotations d.annotations declared).2.symm
  have hproperties : declared.properties = registerProperties .empty
      (d.admitted.flatMap Declaration.properties) := (entries_foldl_declare ..).1
  rw [hdescribed, find?_properties_annotations, hclasses, hregistered, hproperties,
    find?_registerProperties, Table.find?_empty, Option.none_or, Option.map_map]
  refine Option.map_congr fun r _ => ?_
  exact foldl_annotatedProperty k (Naming.clean r.derivedName, []) _

/-! ### Axioms -/

/-- The name and the comments of a class: all of it that annotations change. -/
def textOf (c : OntClass) : String × List String := (c.name, c.comments)

/-- No axiom changes a name or a comment of a class. -/
theorem Edits.textOf_eq (h : Edits o o') (k : String) : (o'.find? k).map textOf = (o.find? k).map textOf := by
  have hmodify : ∀ (o : Ontology) (owner : String) (f : OntClass → OntClass),
      (∀ c, textOf (f c) = textOf c) → ((o.modify owner f).find? k).map textOf = (o.find? k).map textOf := by
    intro o owner f hf
    rw [find?_modify]
    split
    · simp [Function.comp_def, hf]
    · rfl
  induction h with
  | refl => rfl
  | tail _ he ih =>
    refine Eq.trans ?_ ih
    cases he with
    | link =>
      rw [find?_link, Option.map_map]
      rfl
    | data => exact hmodify _ _ _ fun _ => rfl
    | object => exact hmodify _ _ _ fun _ => rfl

/-- In the ontology of a document a class has the name that its last label gives, or else the one that its IRI
suggests, and all of its comments in their order. So has a property under the identifier with which it is
declared; its annotations are those whose subject is no class and whose first key that is registered is this
identifier. No axiom changes any of this, whatever the ontology. -/
theorem names_ofDocument (root : String) (d : Document) :
    (∀ k, d.declaresClass k = true → ∃ c, (ofDocument root d).value.find? k = some c ∧
        c.name = (lastLabel? (d.classAnnotations k)).getD (Naming.clean (Naming.lastSegment k)) ∧
        c.comments = commentsIn (d.classAnnotations k)) ∧
      (∀ k, (ofDocument root d).value.properties.find? k =
        (d.declaredProperties.find? (·.identifier? = some k)).map fun r =>
          let about := d.propertyAnnotations (ofDocument root d).value.properties.contains k
          { iri := k
            name := (lastLabel? about).getD (Naming.clean r.derivedName)
            comments := commentsIn about }) ∧
      ∀ o a, (attach d.resolver o a).value.properties = o.properties ∧
        ∀ k, ((attach d.resolver o a).value.find? k).map (fun c => (c.name, c.comments)) =
          (o.find? k).map fun c => (c.name, c.comments) := by
  have hedits := edits_ofDocument root d
  refine ⟨fun k hk => ?_, fun k => ?_, fun o a => ?_⟩
  · have hdeclared : ∃ x ∈ d.declarations, classIri? d.resolver x = some k := by
      simpa [Document.declaresClass] using hk
    have hdescribed := find?_described root d k
    rw [if_pos hdeclared, newClass, foldl_annotated k (Naming.clean (Naming.lastSegment k), [])]
      at hdescribed
    have htext := hedits.textOf_eq k
    rw [hdescribed, Option.map_some, Option.map_eq_some_iff] at htext
    obtain ⟨c, hc, htext⟩ := htext
    exact ⟨c, hc, congrArg Prod.fst htext, congrArg Prod.snd htext⟩
  · rw [hedits.sameNames.properties_eq]
    exact find?_properties_described root d k
  · have hattach : Edits o (attach d.resolver o a).value := edits_attach o a
    exact ⟨hattach.sameNames.properties_eq, hattach.textOf_eq⟩

/-- An annotation of each kind in turn, of a class in one spelling and of a property in the other. -/
def labelledTwice : Document where
  prefixDeclarations := [{ name := "ex", iri := "urn:x#" }]
  declarations :=
    [{ class? := some { iri := some "urn:x#A" } }, { dataProperty? := some { iri := some "urn:x#p" } }]
  annotations :=
    [("rdfs:label", "ex:A", "first"), ("rdfs:label", "ex:p", "P"), ("rdfs:comment", "ex:A", " one "),
      ("rdfs:label", "ex:A", " A-b "), ("rdfs:comment", "ex:p", "of p"), ("rdfs:comment", "ex:A", "two")].map
      fun (property, subject, literal) =>
        { property := { abbreviated := some property }
          writtenSubject := { abbreviated := some subject }
          literal }

example : ((ofDocument "" labelledTwice).value.find? "urn:x#A").map (fun c => (c.name, c.comments)) =
      some ("Ab", ["one", "two"]) ∧
    (ofDocument "" labelledTwice).value.properties.find? "urn:x#p" =
      some { iri := "urn:x#p", name := "P", comments := ["of p"] } := by
  decide

end Ontology

end OntologySchema
