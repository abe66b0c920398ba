import Mathlib
import OntologySchema.Proofs.Lines
import OntologySchema.Proofs.Schema.Simulation
import OntologySchema.Schema.Text

/-!
# Comments stay comments

The comments of classes and properties are free text, with line feeds, quotes and braces in them as it
pleases their authors. Into the schema they go line by line, each behind a marker of its own, so whatever
they say no line of the schema but a comment comes from them (`comments_confined`).

The schemas of two ontologies that are equal but for comments are made side by side. A field of the one is
that of the other but for its comments, and what a reader who skips comments gets from its lines is the
same (`Field.Reads`); so it is for messages and for the text.
-/

namespace OntologySchema

/-- A class without its comments and those of its properties. -/
def OntClass.uncommented (c : OntClass) : OntClass :=
  { c with
    comments := []
    dataProperties := c.dataProperties.map DataProperty.uncommented
    objectProperties := c.objectProperties.map ObjectProperty.uncommented }

/-- The ontologies are equal but for the comments of classes and of what classes have. -/
structure Ontology.SameButComments (o o' : Ontology) : Prop where
  classes_eq : o.classes.entries.map (fun e => (e.1, e.2.uncommented)) =
    o'.classes.entries.map fun e => (e.1, e.2.uncommented)
  properties_eq : o.properties = o'.properties
  individuals_eq : o.individuals = o'.individuals
  prefixes_eq : o.prefixes = o'.prefixes
  root_eq : o.root = o'.root

/-- Comments have no part in the place of a class. -/
theorem OntClass.samePlace_of_uncommented {c c' : OntClass} (h : c.uncommented = c'.uncommented) :
    c.SamePlace c' :=
  ⟨(congrArg iri h).symm, (congrArg name h).symm, (congrArg parent h).symm,
    (congrArg children h).symm⟩

theorem Ontology.SameButComments.resembles {o o' : Ontology} (h : o.SameButComments o') :
    Resembles (fun c c' => c.uncommented = c'.uncommented) o o' where
  isRoot_eq := fun hc =>
    isRoot_eq_of_place h.root_eq.symm h.prefixes_eq.symm (OntClass.samePlace_of_uncommented hc)
  prefixes_eq := h.prefixes_eq.symm
  entries := (Attempt.forall₂_eq_iff.2 h.classes_eq).imp fun _ _ he => Prod.ext_iff.1 he
  place := OntClass.samePlace_of_uncommented

open Text

/-! ### The lines of fields and messages -/

/-- Comments of a message are skipped. -/
theorem code_messageComments {comments : List String} (h : ∀ c ∈ comments, OneLine c) :
    code (comments.map ("// " ++ ·)) = [] :=
  code_comments (by decide) (fun _ => rfl) h

/-- Comments of a field are skipped. -/
theorem code_fieldComments {comments : List String} (h : ∀ c ∈ comments, OneLine c) :
    code (comments.map ("\t// " ++ ·)) = [] :=
  code_comments (by decide) (fun _ => rfl) h

/-- All comments of two messages stay on their lines. -/
def OneLineEach (comments comments' : List String) : Prop :=
  (∀ c ∈ comments, OneLine c) ∧ ∀ c ∈ comments', OneLine c

/-- To a reader who skips comments the fields are the same. -/
structure Field.Reads (f f' : Field) : Prop where
  lines_eq : code f.lines = code f'.lines
  variantLine_eq : f.variantLine = f'.variantLine

theorem Field.Reads.of_oneLine (shape : FieldShape) (number : Nat) (options : List FieldOption)
    {comments comments' : List String} (h : ∀ c ∈ comments, OneLine c)
    (h' : ∀ c ∈ comments', OneLine c) :
    Field.Reads ⟨shape, number, comments, options⟩ ⟨shape, number, comments', options⟩ where
  lines_eq := by
    rw [Field.lines, Field.lines, code_append, code_append, code_fieldComments h,
      code_fieldComments h']
    rfl
  variantLine_eq := rfl

/-- Messages mean the same to a reader who skips comments if their fields do, whatever their comments, as
long as these stay on their lines. -/
theorem Message.code_lines_eq {m m' : Message}
    (h : Message.Like Field.Reads Eq OneLineEach m m') : code m.lines = code m'.lines := by
  obtain ⟨name, comments, body⟩ := m
  obtain ⟨name', comments', body'⟩ := m'
  obtain ⟨hname, ⟨hcomments, hcomments'⟩, hbody⟩ := h
  obtain rfl : name' = name := hname
  simp only [Message.lines, code_append, code_messageComments hcomments,
    code_messageComments hcomments']
  cases hbody with
  | union h =>
    have hvariants : List.map Field.variantLine _ = List.map Field.variantLine _ :=
      Attempt.forall₂_eq_iff.1 (h.imp fun _ _ hf => hf.variantLine_eq)
    rw [MessageBody.lines, MessageBody.lines, hvariants]
    rfl
  | record ho h =>
    subst ho
    rw [MessageBody.lines, MessageBody.lines, code_append, code_append,
      code_flatMap_eq (h.imp fun _ _ hf => hf.lines_eq)]
    rfl

theorem oneLine_of_mem_commentLines {comment : Option String} :
    ∀ c ∈ Schema.commentLines comment, OneLine c := by
  intro c hc
  cases comment with
  | none => cases hc
  | some text =>
    obtain ⟨line, hline, rfl⟩ := List.mem_map.1 hc
    exact (oneLine_of_mem_lines hline).trim

namespace Schema

open Attempt Ontology

variable {s : SchemaOptions} {o o' : Ontology} {c c' : OntClass}

/-! ### Two ontologies that are equal but for comments -/

/-- What classes have is the same but for comments if the classes are, also after it was sorted without
regard to comments. -/
theorem sorted_eq_of_uncommented {α : Type} (has : OntClass → List α) {uncomment : α → α}
    (before : α → α → Bool) (hhas : ∀ c : OntClass, has c.uncommented = (has c).map uncomment)
    (hbefore : ∀ p q, before p q = before (uncomment p) (uncomment q)) {chain chain' : List OntClass}
    (h : List.Forall₂ (fun c c' => c.uncommented = c'.uncommented) chain chain') :
    ((chain.flatMap has).mergeSort before).map uncomment =
      ((chain'.flatMap has).mergeSort before).map uncomment := by
  have hmap := forall₂_eq_iff.1 (h.imp fun _ _ hc => congrArg has hc)
  simp only [hhas] at hmap
  have hflat : (chain.flatMap has).map uncomment = (chain'.flatMap has).map uncomment := by
    rw [List.map_flatMap, List.map_flatMap, List.flatMap_def, List.flatMap_def, hmap]
  rw [List.map_mergeSort fun p _ q _ => hbefore p q, hflat,
    List.map_mergeSort fun p _ q _ => hbefore p q]

theorem partsAlike_of_sameButComments (h : o.SameButComments o')
    (hc : c.uncommented = c'.uncommented) :
    PartsAlike Field.Reads Eq s s o o' c c' := by
  have hr := h.resembles
  have hiri : c'.iri = c.iri := (hr.place hc).iri_eq
  refine ⟨fun names _ => messageOptions_alike hr hc names, fun names => ?_, fun names => ?_⟩
  · rw [hiri]
    refine (hr.inheritanceChain c.iri).bind fun chain chain' _ _ hchain => .pure ?_
    have hsorted := sorted_eq_of_uncommented OntClass.dataProperties dataBefore (fun _ => rfl)
      (fun _ _ => rfl) hchain
    exact (forall₂_eq_iff.2 hsorted).imp fun p p' hp => dataDraft_alike hr hp.symm
      fun _ _ _ => .of_oneLine _ _ _ oneLine_of_mem_commentLines oneLine_of_mem_commentLines
  · rw [hiri]
    refine (hr.inheritanceChain c.iri).bind fun chain chain' _ _ hchain => .pure ?_
    have hsorted := sorted_eq_of_uncommented OntClass.objectProperties objectBefore (fun _ => rfl)
      (fun _ _ => rfl) hchain
    exact (forall₂_eq_iff.2 hsorted).imp fun p p' hp => objectDraft_alike hr hp.symm
      fun _ _ _ => .of_oneLine _ _ _ oneLine_of_mem_commentLines oneLine_of_mem_commentLines

/-- The messages of two classes that are equal but for comments mean the same to a reader who skips
comments. -/
theorem messageOf_alike_of_sameButComments (h : o.SameButComments o')
    (hc : c.uncommented = c'.uncommented) :
    Alike (fun m m' => code m.lines = code m'.lines) (messageOf s o c) (messageOf s o' c') := by
  have hlines : ∀ {comments : List String}, ∀ l ∈ comments.flatMap Text.lines, OneLine l := by
    intro comments l hl
    obtain ⟨comment, -, hl⟩ := List.mem_flatMap.1 hl
    exact oneLine_of_mem_lines hl
  have hparts := partsAlike_of_sameButComments (s := s) h hc
  have halike := messageOf_alike (F := Field.Reads) (K := OneLineEach) h.resembles rfl
    (fun _ _ => ⟨rfl, rfl⟩) hc ⟨hlines, hlines⟩ fun _ => hparts
  exact halike.imp fun _ _ _ _ hm => Message.code_lines_eq hm

/-- The heads of two schemas are the same. -/
theorem headLines_eq {schema schema' : Schema} (hprefixes : o.prefixes = o'.prefixes)
    (h : (ofOntology s o).result = .ok schema) (h' : (ofOntology s o').result = .ok schema') :
    schema.headLines = schema'.headLines := by
  obtain ⟨-, hheader, hpreamble⟩ := ofOntology_eq_ok_iff.1 h
  obtain ⟨-, hheader', hpreamble'⟩ := ofOntology_eq_ok_iff.1 h'
  rw [headLines, headLines, hheader, hheader', hpreamble, hpreamble', hprefixes]

/-- Two ontologies that are equal but for comments have no schema for the same reason, or both have
schemas, and the texts of these are the same without the lines that are comments. -/
theorem comments_confined (s : SchemaOptions) (o o' : Ontology) (h : o.SameButComments o') :
    (∃ e, (ofOntology s o).result = .error e ∧ (ofOntology s o').result = .error e) ∨
      ∃ schema schema', (ofOntology s o).result = .ok schema ∧
        (ofOntology s o').result = .ok schema' ∧
        withoutComments schema.text = withoutComments schema'.text := by
  have hmessage : ∀ c ∈ o.classes.values, ∀ c' ∈ o'.classes.values,
      c.uncommented = c'.uncommented →
        Alike (fun m m' => code m.lines = code m'.lines) (messageOf s o c) (messageOf s o' c') :=
    fun _ _ _ _ hc => messageOf_alike_of_sameButComments h hc
  cases ofOntology_alike h.resembles hmessage with
  | error hx hy => exact .inl ⟨_, hx, hy⟩
  | ok hx hy hmessages =>
    refine .inr ⟨_, _, hx, hy, ?_⟩
    rw [text, text, withoutComments_unlines, withoutComments_unlines, lines, lines, code_append,
      code_append, headLines_eq h.prefixes_eq hx hy, code_flatMap_eq hmessages]

/-- One class with a data property, and comments on both. -/
def remarked (comments : List String) (comment : Option String) : Ontology :=
  Ontology.insert {}
    { iri := "urn:/A", name := "A", comments
      dataProperties :=
        [{ iri := "urn:/p", type := "string", name := "p", comment, owner := "urn:/A" }] }

theorem sameButComments_remarked (comments comments' : List String) (comment comment' : Option String) :
    (remarked comments comment).SameButComments (remarked comments' comment') :=
  ⟨rfl, rfl, rfl, rfl, rfl⟩

/-- A comment that closes the message and opens another stays a comment. -/
theorem comments_confined_remarked :
    (remarked ["\x7d\nmessage B \x7b"] (some "p;\r\n\tstring q = 1;")).SameButComments
        (remarked [] none) ∧ ∃ schema schema',
      (ofOntology ({} : SchemaOptions).ascending
        (remarked ["\x7d\nmessage B \x7b"] (some "p;\r\n\tstring q = 1;"))).result = .ok schema ∧
      (ofOntology ({} : SchemaOptions).ascending (remarked [] none)).result = .ok schema' ∧
      schema.messages.map (fun m => m.comments :: m.fields.map (·.comments)) =
        [[["\x7d", "message B \x7b"], ["p;", "string q = 1;"]]] ∧
      withoutComments schema.text = withoutComments schema'.text := by
  have hsame := sameButComments_remarked ["\x7d\nmessage B \x7b"] [] (some "p;\r\n\tstring q = 1;") none
  have hcomments : (ofOntology ({} : SchemaOptions).ascending
      (remarked ["\x7d\nmessage B \x7b"] (some "p;\r\n\tstring q = 1;"))).result.map
        (fun schema => schema.messages.map fun m => m.comments :: m.fields.map (·.comments)) =
      .ok [[["\x7d", "message B \x7b"], ["p;", "string q = 1;"]]] := by
    cbv
  obtain ⟨schema, hok, hschema⟩ := exists_of_result_map hcomments
  rcases comments_confined ({} : SchemaOptions).ascending _ _ hsame with
    ⟨e, he, -⟩ | ⟨schema, schema', hx, hy, htext⟩
  · cases hok.symm.trans he
  · cases hok.symm.trans hx
    exact ⟨hsame, schema, schema', hok, hy, hschema, htext⟩

end Schema

end OntologySchema
