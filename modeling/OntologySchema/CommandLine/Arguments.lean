import OntologySchema.CommandLine.Invocation
import OntologySchema.Text.Blank

/-!
# Arguments

What the arguments of the program say. In front of the name of a command stands at most the flag for a
settings file; behind it stand the flags of the command and the path of an ontology, in any order. A flag is
written `--name value` or `--name=value`, one with a letter also `-l value`, `-lvalue` or `-l=value`. No
value of its own starts with a dash. After `--` nothing is a flag.

Arguments are read from left to right, so what is wrong with an earlier one counts before what a later one
asks for.
-/

namespace OntologySchema

/-- What is wrong with arguments. -/
inductive UsageError where
  | missingCommand
  | unknownCommand (name : String)
  | unknownFlag (argument : String)
  | missingValue (flag : String)
  | invalidValue (flag value : String)
  | repeatedFlag (flag : String)
  | missingInput
  | unexpected (argument : String)
  deriving DecidableEq, Repr

/-- The wording of an error. -/
def UsageError.message : UsageError → String
  | .missingCommand => "a command is required: proto, uml or parse"
  | .unknownCommand name => "unrecognized command '" ++ name ++ "'"
  | .unknownFlag argument => "unexpected argument '" ++ argument ++ "'"
  | .missingValue flag => "a value is required for '--" ++ flag ++ "'"
  | .invalidValue flag value => "invalid value '" ++ value ++ "' for '--" ++ flag ++ "'"
  | .repeatedFlag flag => "'--" ++ flag ++ "' cannot be used multiple times"
  | .missingInput => "the path of an ontology is required"
  | .unexpected argument => "unexpected argument '" ++ argument ++ "'"

/-- Why arguments ask for no run. -/
inductive Halt where
  | misused (e : UsageError)
  | help
  | version
  deriving DecidableEq, Repr

/-- What the program says of its version. -/
def versionText : String := "owl2proto 0.1.0\n"

/-- What the program says of its use. -/
def helpText : String := Text.unlines
  ["Generate protobuf schemas and UML diagrams from OWL ontologies", "",
   "Usage: owl2proto [--config FILE] COMMAND ONTOLOGY [FLAGS]", "",
   "Commands:",
   "  proto  Generate a protobuf schema",
   "  uml    Generate a PlantUML class diagram",
   "  parse  Print the normalized ontology as JSON", "",
   "Flags:",
   "  -c, --config FILE                        Path to a YAML configuration file",
   "      --root-resource-name NAME            Class whose subtree is referenced by identifier",
   "      --header-file FILE                   File whose content is placed at the top of the schema",
   "      --output-path FILE                   Output file of proto and uml",
   "      --deterministic-field-numbers BOOL   Hash field numbers instead of counting up",
   "      --full-semantic-mode BOOL            Emit IRIs, prefixes and parents as options",
   "  -o, --output FILE                        Output file of parse",
   "  -h, --help                               Print help",
   "  -V, --version                            Print version"]

/-- The end of the program that comes of it. -/
def Halt.exit : Halt → Exit
  | .misused e => ⟨2, "error: " ++ e.message, true⟩
  | .help => ⟨0, helpText, false⟩
  | .version => ⟨0, versionText, false⟩

/-! ### Flags -/

/-- A flag that takes a value. -/
inductive Flag where
  | settings | root | header | hashedNumbers | semantic | outputPath | output
  deriving DecidableEq, Repr

namespace Flag

/-- The name of a flag. -/
def name : Flag → String
  | settings => "config"
  | root => "root-resource-name"
  | header => "header-file"
  | hashedNumbers => "deterministic-field-numbers"
  | semantic => "full-semantic-mode"
  | outputPath => "output-path"
  | output => "output"

/-- The letter of a flag. -/
def letter? : Flag → Option Char
  | settings => some 'c'
  | output => some 'o'
  | _ => none

/-- Whether a flag can have a value: a truth value is written in full, a path is not empty. -/
def accepts : Flag → String → Bool
  | root, _ => true
  | hashedNumbers, v => v = "true" || v = "false"
  | semantic, v => v = "true" || v = "false"
  | _, v => !v.isEmpty

end Flag

/-- What an argument is, by itself. -/
inductive Argument where
  /-- A flag, with its value if that is part of the argument. -/
  | flag (f : Flag) (value? : Option String)
  | help
  | version
  /-- The end of all flags. -/
  | terminator
  | plain (text : String)
  | unknown (text : String)
  deriving DecidableEq, Repr

/-- Where an argument stands: in front of the command or behind it. -/
structure Place where
  flags : List Flag
  inFront : Bool

/-- The name of a flag in an argument, and the value after an equals sign. -/
def nameAndValue (cs : List Char) : String × Option String :=
  match Text.splitFirst? '=' cs with
  | some (name, value) => (String.ofList name, some (String.ofList value))
  | none => (String.ofList cs, none)

/-- What an argument is, in its place. -/
def Argument.ofString (p : Place) (text : String) : Argument :=
  match text.toList with
  | ['-', '-'] => .terminator
  | '-' :: '-' :: cs =>
    let (name, value?) := nameAndValue cs
    match p.flags.find? (·.name = name) with
    | some f => .flag f value?
    | none =>
      if name = "help" && value?.isNone then .help
      else if name = "version" && p.inFront && value?.isNone then .version
      else .unknown text
  | '-' :: c :: cs =>
    match p.flags.find? (·.letter? = some c) with
    | some f =>
      match cs with
      | [] => .flag f none
      | '=' :: value => .flag f (some (String.ofList value))
      | value => .flag f (some (String.ofList value))
    | none =>
      if c = 'h' then .help
      else if c = 'V' && p.inFront then .version
      else .unknown text
  | _ => .plain text

/-- Whether an argument can be a value of its own. -/
def isValue (text : String) : Bool := text.toList.head? ≠ some '-' || text = "-"

/-! ### Reading arguments -/

/-- What has been read of the arguments. -/
structure Seen where
  values : List (Flag × String) := []
  input? : Option String := none

namespace Seen

/-- The value of a flag. -/
def value? (s : Seen) (f : Flag) : Option String := s.values.lookup f

/-- A flag is given a value, for the first time and one that it can have. -/
def give (s : Seen) (f : Flag) (value : String) : Except Halt Seen :=
  if (s.value? f).isSome then .error (.misused (.repeatedFlag f.name))
  else if f.accepts value then .ok { s with values := (f, value) :: s.values }
  else .error (.misused (.invalidValue f.name value))

/-- The path of an ontology, unless there was one before. -/
def take (s : Seen) (text : String) : Except Halt Seen :=
  if s.input?.isSome then .error (.misused (.unexpected text))
  else if text.isEmpty then .error (.misused .missingInput)
  else .ok { s with input? := some text }

/-- The settings that the flags give. -/
def settings (s : Seen) : Settings where
  root? := s.value? .root
  headerPath? := s.value? .header
  hashedNumbers? := (s.value? .hashedNumbers).map (· = "true")
  semantic? := (s.value? .semantic).map (· = "true")

end Seen

/-- Read arguments; in front of a command, up to the command. -/
def readArguments (p : Place) : Seen → List String → Except Halt (Seen × List String)
  | s, [] => .ok (s, [])
  | s, text :: rest =>
    match Argument.ofString p text with
    | .help => .error .help
    | .version => .error .version
    | .unknown text => .error (.misused (.unknownFlag text))
    | .terminator =>
      if p.inFront then .error (.misused .missingCommand)
      else do return (← rest.foldlM Seen.take s, [])
    | .plain text =>
      if p.inFront then .ok (s, text :: rest)
      else do readArguments p (← s.take text) rest
    | .flag f (some value) => do readArguments p (← s.give f value) rest
    | .flag f none =>
      match rest with
      | value :: rest =>
        if isValue value then do readArguments p (← s.give f value) rest
        else .error (.misused (.missingValue f.name))
      | [] => .error (.misused (.missingValue f.name))

/-- A command: the flags that it knows, and what it asks for. -/
structure Command where
  name : String
  flags : List Flag
  task : Seen → Task
  settings : Seen → Settings

/-- The commands. -/
def commands : List Command :=
  [{ name := "proto"
     flags := [.settings, .root, .header, .hashedNumbers, .semantic, .outputPath]
     task := fun _ => .schema
     settings := fun s => { s.settings with schemaPath? := s.value? .outputPath } },
   { name := "uml"
     flags := [.settings, .root, .outputPath]
     task := fun _ => .diagram
     settings := fun s => { s.settings with diagramPath? := s.value? .outputPath } },
   { name := "parse"
     flags := [.settings, .root, .output]
     task := fun s => .json (s.value? .output)
     settings := (·.settings) }]

/-- Whether help can be asked for on some topics: none, or one that is a command. -/
def helpOn : List String → Halt
  | [] => .help
  | name :: rest =>
    if !(("help" :: commands.map (·.name)).contains name) then .misused (.unknownCommand name)
    else match rest with
      | [] => .help
      | topic :: _ => .misused (.unknownCommand topic)

/-- What arguments ask for. A settings file named behind the command counts before one in front of it. -/
def Invocation.ofArguments (arguments : List String) : Except Halt Invocation := do
  let (front, rest) ← readArguments ⟨[.settings], true⟩ {} arguments
  match rest with
  | [] => throw (.misused .missingCommand)
  | name :: rest =>
    if name = "help" then throw (helpOn rest)
    match commands.find? (·.name = name) with
    | none => throw (.misused (.unknownCommand name))
    | some c =>
      let (seen, _) ← readArguments ⟨c.flags, false⟩ {} rest
      match seen.input? with
      | none => throw (.misused .missingInput)
      | some input =>
        return {
          task := c.task seen
          input := input
          settingsPath? := seen.value? .settings <|> front.value? .settings
          flags := c.settings seen }

end OntologySchema
