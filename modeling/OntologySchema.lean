import OntologySchema.CommandLine.Arguments
import OntologySchema.CommandLine.Invocation
import OntologySchema.CommandLine.Libraries
import OntologySchema.CommandLine.Program
import OntologySchema.CommandLine.Run
import OntologySchema.CommandLine.Standard
import OntologySchema.Datatype
import OntologySchema.Diagram
import OntologySchema.Document.Basic
import OntologySchema.Document.OfXml
import OntologySchema.Document.Resolver
import OntologySchema.FieldNumber
import OntologySchema.FieldNumber.Hash
import OntologySchema.Files.Access
import OntologySchema.Files.Basic
import OntologySchema.Files.Path
import OntologySchema.Files.State
import OntologySchema.Files.System
import OntologySchema.Json.Basic
import OntologySchema.Json.Library
import OntologySchema.Json.Parser
import OntologySchema.Json.Printer
import OntologySchema.Json.Standard
import OntologySchema.Log
import OntologySchema.Main
import OntologySchema.Naming
import OntologySchema.Ontology.Basic
import OntologySchema.Ontology.Hierarchy
import OntologySchema.Ontology.Json
import OntologySchema.Ontology.Load
import OntologySchema.Ontology.OfDocument
import OntologySchema.Ontology.OfXml
import OntologySchema.Prefixes
import OntologySchema.Proofs.ByteOrder
import OntologySchema.Proofs.CommandLine.Effects
import OntologySchema.Proofs.Diagram
import OntologySchema.Proofs.Document
import OntologySchema.Proofs.Document.Classification
import OntologySchema.Proofs.Files
import OntologySchema.Proofs.Hierarchy.Ancestors
import OntologySchema.Proofs.Hierarchy.Ascent
import OntologySchema.Proofs.Hierarchy.Bounds
import OntologySchema.Proofs.Hierarchy.Descent
import OntologySchema.Proofs.Hierarchy.Frame
import OntologySchema.Proofs.Hierarchy.Leaves
import OntologySchema.Proofs.Hierarchy.Links
import OntologySchema.Proofs.Hierarchy.Resemblance
import OntologySchema.Proofs.Json.Library
import OntologySchema.Proofs.Json.RoundTrip
import OntologySchema.Proofs.Likeness
import OntologySchema.Proofs.Lines
import OntologySchema.Proofs.LookupKeys
import OntologySchema.Proofs.Naming
import OntologySchema.Proofs.Naming.Boundaries
import OntologySchema.Proofs.Naming.NormalForm
import OntologySchema.Proofs.Naming.Plural
import OntologySchema.Proofs.Ontology.Accounting
import OntologySchema.Proofs.Ontology.Axioms
import OntologySchema.Proofs.Ontology.Correspondence
import OntologySchema.Proofs.Ontology.Datatypes
import OntologySchema.Proofs.Ontology.Declarations
import OntologySchema.Proofs.Ontology.Edits
import OntologySchema.Proofs.Ontology.EmptyForms
import OntologySchema.Proofs.Ontology.Entries
import OntologySchema.Proofs.Ontology.Export
import OntologySchema.Proofs.Ontology.Faithful
import OntologySchema.Proofs.Ontology.Lookup
import OntologySchema.Proofs.Ontology.Names
import OntologySchema.Proofs.Ontology.Parents
import OntologySchema.Proofs.Ontology.Passes
import OntologySchema.Proofs.Ontology.RelativeReferences
import OntologySchema.Proofs.Ontology.Root
import OntologySchema.Proofs.Ontology.Spelling
import OntologySchema.Proofs.Ontology.TopClass
import OntologySchema.Proofs.Ontology.WellFormed
import OntologySchema.Proofs.Outcome
import OntologySchema.Proofs.Prefixes
import OntologySchema.Proofs.Prefixes.Abbreviation
import OntologySchema.Proofs.RelationRole
import OntologySchema.Proofs.Schema.Collisions
import OntologySchema.Proofs.Schema.Comments
import OntologySchema.Proofs.Schema.Configuration
import OntologySchema.Proofs.Schema.Counting
import OntologySchema.Proofs.Schema.Failure
import OntologySchema.Proofs.Schema.FieldText
import OntologySchema.Proofs.Schema.Fields
import OntologySchema.Proofs.Schema.Inheritance
import OntologySchema.Proofs.Schema.Keys
import OntologySchema.Proofs.Schema.Locality
import OntologySchema.Proofs.Schema.Messages
import OntologySchema.Proofs.Schema.NumberRange
import OntologySchema.Proofs.Schema.Numbering
import OntologySchema.Proofs.Schema.OrderIndependence
import OntologySchema.Proofs.Schema.References
import OntologySchema.Proofs.Schema.RootSpelling
import OntologySchema.Proofs.Schema.Simulation
import OntologySchema.Proofs.Schema.Stability
import OntologySchema.Proofs.Schema.Unions
import OntologySchema.Proofs.StableSort
import OntologySchema.Proofs.Table
import OntologySchema.Proofs.Text.Lowercase
import OntologySchema.Proofs.WritingOut
import OntologySchema.Reference
import OntologySchema.RelationRole
import OntologySchema.Schema.Basic
import OntologySchema.Schema.OfOntology
import OntologySchema.Schema.Text
import OntologySchema.Settings
import OntologySchema.Settings.OfYaml
import OntologySchema.Table.Basic
import OntologySchema.Text.Blank
import OntologySchema.Text.Case
import OntologySchema.Text.Case.Context
import OntologySchema.Text.Case.Mapping
import OntologySchema.Text.Digit
import OntologySchema.Text.Printable
import OntologySchema.Text.Range
import OntologySchema.Xml.Basic
import OntologySchema.Xml.Parser
import OntologySchema.Yaml.Block
import OntologySchema.Yaml.Character
import OntologySchema.Yaml.Mapping
import OntologySchema.Yaml.Scalar
import OntologySchema.Yaml.Tag
import OntologySchema.Yaml.Token
