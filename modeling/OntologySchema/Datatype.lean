import OntologySchema.Text.Blank

/-!
# Datatypes

The schema type of an ontology datatype. Datatypes of XML Schema are looked up in their `xsd:` form,
however they are written; what the table does not name is taken for the name of a message.
-/

namespace OntologySchema.Datatype

/-- The namespace of the XML Schema datatypes. -/
def xmlSchema : String := "http://www.w3.org/2001/XMLSchema#"

/-- A datatype of XML Schema in its `xsd:` form, any other as it is. -/
def shortForm (datatype : String) : String :=
  match Text.afterPrefix? xmlSchema datatype with
  | some suffix => "xsd:" ++ suffix
  | none => datatype

/-- The schema types of the datatypes that have one of their own. -/
def known : List (String × String) :=
  [("xsd:boolean", "bool"),
   ("xsd:String", "string"),
   ("xsd:string", "string"),
   ("xsd:de.fraunhofer.aisec.cpg.graph.Node", "string"),
   ("xsd:de.fraunhofer.aisec.cpg.graph.statements.expressions.CallExpression", "string"),
   ("xsd:de.fraunhofer.aisec.cpg.graph.statements.expressions.Expression", "string"),
   ("xsd:de.fraunhofer.aisec.cpg.graph.declarations.FunctionDeclaration", "string"),
   ("http://graph.clouditor.io/classes/resourceId", "string"),
   ("xsd:listString", "repeated string"),
   ("xsd:java.util.ArrayList<String>", "repeated string"),
   ("java.util.List<de.fraunhofer.aisec.cpg.graph.declarations.TranslationUnitDeclaration>",
     "repeated string"),
   ("java.util.List<de.fraunhofer.aisec.cpg.graph.statements.expressions.CallExpression>",
     "repeated string"),
   ("xsd:java.util.List<de.fraunhofer.aisec.cpg.graph.statements.expressions.CallExpression>",
     "repeated string"),
   ("xsd:java.util.List<de.fraunhofer.aisec.cpg.graph.declarations.TranslationUnitDeclaration>",
     "repeated string"),
   ("xsd:integer", "int32"),
   ("xsd:int", "int32"),
   ("xsd:Short", "uint32"),
   ("xsd:float", "float"),
   ("xsd:java.time.Duration", "google.protobuf.Duration"),
   ("xsd:dateTime", "google.protobuf.Timestamp"),
   ("xsd:java.time.ZonedDateTime", "google.protobuf.Timestamp"),
   ("xsd:java.util.ArrayList<Short>", "repeated uint32"),
   ("xsd:java.util.Map<String, String>", "map<string, string>")]

/-- The schema type of a datatype. -/
def schemaType (datatype : String) : String :=
  (known.lookup (shortForm datatype)).getD (shortForm datatype)

end OntologySchema.Datatype
