import OntologySchema.Schema.OfOntology
import OntologySchema.Schema.Text

/-!
# The text of a field

What a schema says of a property is written here once more, as one text and without regard to lines: the
comment line by line, each behind a marker, then a declaration, which has a label where there is one, a
type, a name, a number and options between brackets. A field with the shape, the comments and the options of
a property is written so (`RendersData.writes`, `RendersObject.writes`).
-/

namespace OntologySchema

open Text

/-- Options between brackets: one on the line, several in a block, and for none no brackets. -/
def bracketed : List String → String
  | [] => ""
  | [option] => " [ " ++ option ++ " ]"
  | options => " [\n\t\t" ++ ",\n\t\t".intercalate options ++ "\n\t]"

/-- The text of a field: its comments, each on a line of its own, and then what it declares. -/
def fieldText (comments : List String) (declared : String) (number : Nat) (options : List String) :
    String :=
  String.join (comments.map fun c => "\t// " ++ c ++ "\n") ++
    ("\t" ++ declared ++ " = " ++ toString number ++ bracketed options ++ ";\n")

/-! ### The lines of a field -/

theorem unlines_cons (l : String) (ls : List String) : unlines (l :: ls) = l ++ "\n" ++ unlines ls := by
  simp [unlines]

theorem unlines_singleton (l : String) : unlines [l] = l ++ "\n" := by
  simp [unlines]

/-- Options one below the other have a comma after each but the last. -/
theorem unlines_optionBlock : ∀ {options : List String}, options ≠ [] →
    unlines ((options.dropLast.map fun o => "\t\t" ++ o ++ ",") ++
      options.getLast?.toList.map fun o => "\t\t" ++ o) =
        "\t\t" ++ ",\n\t\t".intercalate options ++ "\n"
  | [o], _ => by simp [unlines]
  | o :: o' :: options, _ => by
    rw [List.dropLast_cons_cons, List.getLast?_cons_cons, List.map_cons, List.cons_append, unlines_cons,
      unlines_optionBlock (List.cons_ne_nil o' options), String.intercalate_cons_cons]
    have hcomma : ("," ++ ("\n" ++ "\t\t") : String) = ",\n\t\t" := rfl
    simp only [String.append_assoc, ← hcomma]

theorem unlines_fieldOptionLines (head : String) (options : List FieldOption) :
    unlines (fieldOptionLines head options) =
      head ++ bracketed (options.map FieldOption.text) ++ ";\n" := by
  match options with
  | [] => simp [fieldOptionLines, bracketed, unlines, ← String.toList_inj]
  | [option] => simp [fieldOptionLines, bracketed, unlines, ← String.toList_inj]
  | o :: o' :: options =>
    have hblock := unlines_optionBlock (List.cons_ne_nil o.text ((o' :: options).map FieldOption.text))
    rw [← List.map_cons, ← List.map_dropLast, List.map_map, List.getLast?_map, Option.toList_map, List.map_map,
      Function.comp_def, Function.comp_def] at hblock
    have hlines : fieldOptionLines head (o :: o' :: options) = (head ++ " [") ::
        (((o :: o' :: options).dropLast.map fun o => "\t\t" ++ o.text ++ ",") ++
          ((o :: o' :: options).getLast?.toList.map fun o => "\t\t" ++ o.text) ++ ["\t];"]) := rfl
    rw [hlines, unlines_cons, unlines_append, unlines_singleton, hblock]
    simp [bracketed, ← String.toList_inj]

/-- A field is written as its comments, its shape, its number and its options. -/
theorem Field.unlines_lines (f : Field) : unlines f.lines =
    fieldText f.comments f.shape.text f.number (f.options.map FieldOption.text) := by
  rw [Field.lines, unlines_append, unlines_fieldOptionLines, Field.declaration, fieldText, unlines,
    List.map_map]
  simp only [String.append_assoc, Function.comp_def]

namespace Schema

variable {s : SchemaOptions} {o : Ontology}

/-! ### The text of a property -/

/-- The options that tell where a property is from, if a schema is to tell it. -/
def originTexts (s : SchemaOptions) (o : Ontology) (iri parent owner : String) : List String :=
  if s.semantic then
    ["(owl.property).iri = \"" ++ o.prefixes.abbreviate iri ++ "\"",
     "(owl.property).parent = \"" ++ parent ++ "\"",
     "(owl.property).class_iri = \"" ++ o.prefixes.abbreviate owner ++ "\""]
  else []

/-- The text of a data property under a number; a name and an identifier are required. -/
def dataText (s : SchemaOptions) (o : Ontology) (p : DataProperty) (number : Nat) : String :=
  fieldText (commentLines p.comment) (p.type ++ " " ++ Naming.snakeCase p.name) number
    ((if p.name = "name" || p.name = "id" then ["(buf.validate.field).required = true"] else []) ++
      originTexts s o p.iri "owl:topDataProperty" p.owner)

/-- How an object property refers to its target, which is at or below the root or elsewhere. -/
def referenceText (p : ObjectProperty) (belowRoot : Bool) : String :=
  match RelationRole.ofName p.name, belowRoot with
  | .proxyTarget, _ => "string " ++ Naming.snakeCase p.targetName
  | .parentId, _ => "optional string parent_id"
  | .single, true => "optional string " ++ Naming.snakeCase (p.targetName ++ "_id")
  | .repeated, true => "repeated string " ++ Naming.snakeCase (p.targetName ++ "_ids")
  | .single, false => p.targetName ++ " " ++ Naming.snakeCase p.targetName
  | .repeated, false =>
    "repeated " ++ p.targetName ++ " " ++ Naming.snakeCase (Naming.plural p.targetName)

/-- The text of an object property under a number. -/
def objectText (s : SchemaOptions) (o : Ontology) (p : ObjectProperty) (belowRoot : Bool)
    (number : Nat) : String :=
  fieldText (commentLines p.comment) (referenceText p belowRoot) number
    (originTexts s o p.iri "owl:topObjectProperty" p.owner)

/-- The field of a data property: its type and its name, the lines of its comment, and its options. -/
def RendersData (s : SchemaOptions) (o : Ontology) (p : DataProperty) (f : Field) : Prop :=
  f.shape = { type := p.type, name := Naming.snakeCase p.name } ∧
    f.comments = commentLines p.comment ∧
    f.options = (if p.name = "name" || p.name = "id" then [.required] else []) ++
      if s.semantic then semanticOptions o p.iri "owl:topDataProperty" p.owner else []

/-- The field of an object property: what its role makes of a target at or below the root or elsewhere,
the lines of its comment, and its options. -/
def RendersObject (s : SchemaOptions) (o : Ontology) (p : ObjectProperty) (f : Field) : Prop :=
  ∃ belowRoot, (o.isAtOrBelowRoot p.target).result = .ok belowRoot ∧
    f.shape = (RelationRole.ofName p.name).field p.targetName belowRoot ∧
    f.comments = commentLines p.comment ∧
    f.options = if s.semantic then semanticOptions o p.iri "owl:topObjectProperty" p.owner else []

theorem append_inQuotes (start text : String) :
    start ++ inQuotes text = start ++ "\"" ++ text ++ "\"" := by
  simp only [inQuotes, String.append_assoc]

theorem map_text_semanticOptions (s : SchemaOptions) (o : Ontology) (iri parent owner : String) :
    (if s.semantic then semanticOptions o iri parent owner else []).map FieldOption.text =
      originTexts s o iri parent owner := by
  have hiri := append_inQuotes "(owl.property).iri = " (o.prefixes.abbreviate iri)
  have hparent := append_inQuotes "(owl.property).parent = " parent
  have hclass := append_inQuotes "(owl.property).class_iri = " (o.prefixes.abbreviate owner)
  unfold originTexts
  by_cases h : s.semantic = true
  · rw [if_pos h, if_pos h]
    simp only [semanticOptions, List.map_cons, List.map_nil, List.cons.injEq]
    exact ⟨hiri, hparent, hclass, trivial⟩
  · rw [if_neg h, if_neg h, List.map_nil]

theorem text_field_ofName (p : ObjectProperty) (belowRoot : Bool) :
    ((RelationRole.ofName p.name).field p.targetName belowRoot).text = referenceText p belowRoot := by
  unfold referenceText
  cases RelationRole.ofName p.name <;> cases belowRoot <;>
    simp [RelationRole.field, FieldShape.text, Label.keyword]

/-- The field has what a data property says, and its lines say it. -/
def WritesData (s : SchemaOptions) (o : Ontology) (p : DataProperty) (f : Field) : Prop :=
  RendersData s o p f ∧ unlines f.lines = dataText s o p f.number

/-- The field has what an object property says, and its lines say it. -/
def WritesObject (s : SchemaOptions) (o : Ontology) (p : ObjectProperty) (f : Field) : Prop :=
  RendersObject s o p f ∧ ∃ belowRoot, (o.isAtOrBelowRoot p.target).result = .ok belowRoot ∧
    unlines f.lines = objectText s o p belowRoot f.number

theorem RendersData.writes {p : DataProperty} {f : Field} (h : RendersData s o p f) :
    WritesData s o p f := by
  refine ⟨h, ?_⟩
  obtain ⟨hshape, hcomments, hoptions⟩ := h
  have hrequired : (if p.name = "name" || p.name = "id" then [FieldOption.required] else []).map
      FieldOption.text = if p.name = "name" || p.name = "id" then
        ["(buf.validate.field).required = true"] else [] := by
    split <;> rfl
  rw [Field.unlines_lines, hshape, hcomments, hoptions, List.map_append, hrequired,
    map_text_semanticOptions, dataText]
  simp [FieldShape.text]

theorem RendersObject.writes {p : ObjectProperty} {f : Field} (h : RendersObject s o p f) :
    WritesObject s o p f := by
  refine ⟨h, ?_⟩
  obtain ⟨belowRoot, hbelow, hshape, hcomments, hoptions⟩ := h
  refine ⟨belowRoot, hbelow, ?_⟩
  rw [Field.unlines_lines, hshape, hcomments, hoptions, map_text_semanticOptions, text_field_ofName,
    objectText]

end Schema

end OntologySchema
