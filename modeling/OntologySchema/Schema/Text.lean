import OntologySchema.Schema.Basic

/-!
# The text of a schema

Every part of a schema is a list of lines; the text of the schema is all its lines, each ended by a
line feed.
-/

namespace OntologySchema

/-- The line that says what made a file. -/
def generatedBy : String :=
  "Auto-generated code by owl2proto (https://github.com/oxisto/owl2proto)"

/-- A text between double quotes. -/
def inQuotes (s : String) : String := "\"" ++ s ++ "\""

/-- The text of a field option. -/
def FieldOption.text : FieldOption → String
  | .required => "(buf.validate.field).required = true"
  | .iri s => "(owl.property).iri = " ++ inQuotes s
  | .parent s => "(owl.property).parent = " ++ inQuotes s
  | .classIri s => "(owl.property).class_iri = " ++ inQuotes s

/-- The lines of a field, its declaration first `head`: no options, one on the line, or a block. -/
def fieldOptionLines (head : String) : List FieldOption → List String
  | [] => [head ++ ";"]
  | [option] => [head ++ " [ " ++ option.text ++ " ];"]
  | options =>
    (head ++ " [") ::
      ((options.dropLast.map fun o => "\t\t" ++ o.text ++ ",") ++
        (options.getLast?.toList.map fun o => "\t\t" ++ o.text) ++ ["\t];"])

/-- The declaration of a field. -/
def Field.declaration (f : Field) : String := f.shape.text ++ " = " ++ toString f.number

/-- The lines of a field of a message. -/
def Field.lines (f : Field) : List String :=
  (f.comments.map fun c => "\t// " ++ c) ++ fieldOptionLines ("\t" ++ f.declaration) f.options

/-- The line of a variant of a union. -/
def Field.variantLine (f : Field) : String := "\t\t" ++ f.declaration ++ ";"

/-- The text of a message option. -/
def MessageOption.text : MessageOption → String
  | .iri s => "option (owl.class).iri = " ++ inQuotes s ++ ";"
  | .parent s => "option (owl.class).parent = " ++ inQuotes s ++ ";"
  | .typeName s => "option (resource_type_names) = " ++ inQuotes s ++ ";"

/-- The sentence in front of a message that says what its class is. -/
def MessageBody.introduction : MessageBody → String
  | .union _ =>
    " is an abstract class in our ontology, it cannot be instantiated but acts as an \"interface\"."
  | .record _ _ =>
    " is an entity class in our ontology. It can be instantiated and contains all of its " ++
      "properties as well of its implemented interfaces."

/-- The lines between the braces of a message. -/
def MessageBody.lines : MessageBody → List String
  | .union variants => "\toneof type \x7b" :: (variants.map Field.variantLine ++ ["\t\x7d"])
  | .record options fields => (options.map fun o => "\t" ++ o.text) ++ fields.flatMap Field.lines

/-- The lines of a message. -/
def Message.lines (m : Message) : List String :=
  ["", "// " ++ m.name ++ m.body.introduction] ++ (m.comments.map fun c => "// " ++ c) ++
    ["message " ++ m.name ++ " \x7b"] ++ m.body.lines ++ ["\x7d"]

/-- The line of a prefix, with the separator after it. -/
def prefixLine (entry : String × String) (separator : String) : String :=
  "\t\t\x7b prefix: " ++ inQuotes entry.1 ++ " iri: " ++ inQuotes entry.2 ++ " \x7d" ++ separator

/-- The lines of a preamble. -/
def Preamble.lines : Preamble → List String
  | .prefixes entries =>
    ["", "import \"owl/owl.proto\";", "", "option (owl.meta) = \x7b", "\tprefixes: ["] ++
      (entries.dropLast.map (prefixLine · ",") ++
        entries.getLast?.toList.map (prefixLine · "")) ++
      ["\t]", "\x7d;"]
  | .typeNames =>
    ["", "extend google.protobuf.MessageOptions \x7b",
     "\trepeated string resource_type_names = 60000;", "\x7d"]

namespace Schema

/-- The lines in front of the messages. -/
def headLines (s : Schema) : List String :=
  ["// " ++ generatedBy, "", Text.trimEnd s.header] ++ s.preamble.lines

/-- The lines of a schema. -/
def lines (s : Schema) : List String := s.headLines ++ s.messages.flatMap Message.lines

/-- The text of a schema. -/
def text (s : Schema) : String := Text.unlines s.lines

end Schema

end OntologySchema
