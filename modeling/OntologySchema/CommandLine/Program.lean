import OntologySchema.CommandLine.Libraries
import OntologySchema.Diagram
import OntologySchema.Files.Access
import OntologySchema.Files.Path
import OntologySchema.Ontology.Json
import OntologySchema.Ontology.Load
import OntologySchema.Schema.OfOntology
import OntologySchema.Schema.Text

/-!
# The program

What a run does: it reads the settings, the header and the ontology, makes the result, and puts it out last. A
file is written next to its place and then takes the place, so that there is never a part of it.
-/

namespace OntologySchema

/-- Why a run has no result. -/
inductive Failure where
  | unreadableSettings (path : String)
  | invalidSettings (path : String)
  | noRoot
  | unreadableHeader (path : String)
  | ontology (path : String) (cause : LoadError)
  | schema (cause : SchemaError)
  /-- There is no JSON of the ontology. -/
  | unexported
  | folder (path : String)
  | temporary (path : String)
  | writing (path : String)
  | moving (path : String)
  deriving DecidableEq, Repr

/-- The wording of a failure. -/
def Failure.message : Failure → String
  | .unreadableSettings path => "Failed to read config file " ++ path
  | .invalidSettings path => "Invalid config file " ++ path
  | .noRoot => "No root resource given: pass --root-resource-name or set root_resource_name " ++
      "in the config file"
  | .unreadableHeader path => "Failed to read header file " ++ path
  | .ontology path _ => "Failed to load ontology " ++ path
  | .schema _ => "Failed to generate protobuf schema"
  | .unexported => "Failed to serialize ontology"
  | .folder path => "Failed to create output directory " ++ path
  | .temporary path => "Failed to create temporary file in " ++ path
  | .writing path => "Failed to write " ++ path
  | .moving path => "Failed to move output into place at " ++ path

/-- How the program ends. -/
inductive Ending where
  | done
  | failed (cause : Failure)
  | exited (exit : Exit)
  deriving DecidableEq, Repr

/-- The status that the program ends with. -/
def Ending.status : Ending → Nat
  | .done => 0
  | .failed _ => 1
  | .exited exit => exit.status

/-- What the program complains of when it ends. -/
def Ending.complaint? : Ending → Option String
  | .done => none
  | .failed cause => some ("Error: " ++ cause.message)
  | .exited exit => if exit.onStderr then some exit.text else none

section

variable {m : Type → Type} [Monad m] [FileAccess m]

/-- Note one event. -/
def noteEvent (level : Log.Level) (message : String) (fields : List (String × Log.Value) := []) :
    ExceptT Failure m Unit :=
  ExceptT.lift (FileAccess.note [⟨level, message, fields⟩])

/-- The value of a computation whose events are noted. -/
def noted {α : Type} (x : Logged α) : ExceptT Failure m α := do
  ExceptT.lift (FileAccess.note x.events)
  return x.value

/-- The value of an attempt whose events are noted; its failure is the failure of the run. -/
def attempted {ε α : Type} (failure : ε → Failure) (x : Attempt ε α) : ExceptT Failure m α := do
  match ← noted x.run with
  | .ok a => return a
  | .error e => throw (failure e)

/-- The text in a file. -/
def textOf (failure : Failure) (path : String) : ExceptT Failure m String := do
  match ← ExceptT.lift (FileAccess.readText path) with
  | some text => return text
  | none => throw failure

/-- The settings in a file; without a file nothing is set. -/
def settingsIn (lib : Libraries) : Option String → ExceptT Failure m Settings
  | none => return {}
  | some path => do
    match Settings.ofText? lib.settings? (← textOf (.unreadableSettings path) path) with
    | some s => return s
    | none => throw (.invalidSettings path)

/-- The ontology in a file. -/
def ontologyIn (lib : Libraries) (root path : String) : ExceptT Failure m Ontology := do
  noteEvent .trace ("Loading ontology from file: " ++ Log.quoted path)
  let text ← textOf (.ontology path .unreadable) path
  let o ← attempted (.ontology path) (Ontology.loadBy lib.document? root text)
  noteEvent .info "Loaded ontology"
    [("path", .text path), ("resources", .number o.classes.size)]
  return o

/-- The text of the export of an ontology. -/
def exportOf (lib : Libraries) (o : Ontology) : ExceptT Failure m String :=
  match o.exported? lib.J with
  | some text => return text ++ "\n"
  | none => throw .unexported

/-- Let a new file take a text, and then the place that a path leads to. It is removed if it does not come to
that. -/
def settle (file : FileAccess.NewFile m) (path text : String) : ExceptT Failure m Unit := do
  if ← ExceptT.lift (FileAccess.write file text) then
    if ← ExceptT.lift (FileAccess.moveTo file path) then
      noteEvent .info "Wrote output file" [("path", .text path), ("bytes", .number text.utf8ByteSize)]
    else
      ExceptT.lift (FileAccess.discard file)
      throw (.moving path)
  else
    ExceptT.lift (FileAccess.discard file)
    throw (.writing path)

/-- Put a text in a file, in a folder that is made where it is not there. -/
def writeFile (path text : String) : ExceptT Failure m Unit := do
  let folder := Path.folder path
  if ← ExceptT.lift (FileAccess.makeFolder folder) then
    match ← ExceptT.lift (FileAccess.newFile folder) with
    | some file => settle file path text
    | none => throw (.temporary folder)
  else throw (.folder folder)

/-- The root class of a run. -/
def rootOf (s : Settings) : ExceptT Failure m String :=
  match s.rootClass? with
  | some root => return root
  | none => throw .noRoot

/-- The options of the schema, with the header from its file. -/
def schemaOptionsOf (s : Settings) : ExceptT Failure m SchemaOptions := do
  match s.headerPath? with
  | none => return s.schemaOptions none
  | some path => return s.schemaOptions (some (← textOf (.unreadableHeader path) path))

variable [Console m]

/-- Do what an invocation asks for. -/
def Invocation.run (lib : Libraries) (i : Invocation) : ExceptT Failure m Unit := do
  let s := i.flags.orElse (← settingsIn lib i.settingsPath?)
  let root ← rootOf s
  match i.task with
  | .schema => do
    let options ← schemaOptionsOf s
    noteEvent .info ("Generating protobuf schema " ++ i.input ++ " -> " ++ s.schemaPath)
    let o ← ontologyIn lib root i.input
    let schema ← attempted .schema (Schema.ofOntology options o)
    writeFile s.schemaPath schema.text
  | .diagram => do
    noteEvent .info ("Generating UML diagram " ++ i.input ++ " -> " ++ s.diagramPath)
    let o ← ontologyIn lib root i.input
    let diagram ← noted (Diagram.ofOntology o)
    writeFile s.diagramPath diagram.text
  | .json path? => do
    let o ← ontologyIn lib root i.input
    let text ← exportOf lib o
    match path? with
    | none => ExceptT.lift (Console.print text)
    | some path => writeFile path text

/-- The program, with some arguments. -/
def program (lib : Libraries) (arguments : List String) : m Ending := do
  match lib.invocation arguments with
  | .error exit =>
    if !exit.onStderr then Console.print exit.text
    return .exited exit
  | .ok i =>
    match ← (i.run lib).run with
    | .ok () => return .done
    | .error e => return .failed e

end

end OntologySchema
