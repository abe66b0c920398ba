import OntologySchema.Settings

/-!
# Invocations

What the arguments of the program come to: an invocation, or the end of the program without one.
-/

namespace OntologySchema

/-- What a run is to make of an ontology. -/
inductive Task where
  /-- A schema, in a file. -/
  | schema
  /-- A class diagram, in a file. -/
  | diagram
  /-- The export of the ontology, in a file or as output. -/
  | json (path? : Option String)
  deriving DecidableEq, Repr

/-- What the arguments ask for. -/
structure Invocation where
  task : Task
  /-- The path of the ontology. -/
  input : String
  /-- The path of the settings file. -/
  settingsPath? : Option String := none
  /-- The settings that flags give. -/
  flags : Settings := {}
  deriving DecidableEq, Repr

/-- An end of the program at its arguments, with a text for one of the two output streams. -/
structure Exit where
  status : Nat
  text : String
  onStderr : Bool
  deriving DecidableEq, Repr

end OntologySchema
