import OntologySchema.CommandLine.Program
import OntologySchema.CommandLine.Standard

/-!
# The program on a machine

Runs on the files that there are. Events are written to the standard error stream.
-/

namespace OntologySchema

/-- The result of an action, if it has one. -/
def ifDone {α : Type} (action : IO α) : IO (Option α) := do
  match ← action.toBaseIO with
  | .ok a => return some a
  | .error _ => return none

/-- A new file in a folder, and its path. -/
def newFileIn (folder : String) : IO (IO.FS.Handle × String) := do
  let path := folder ++ "/.new" ++ toString (← IO.rand 0 999999999)
  return (← IO.FS.Handle.mk path .writeNew, path)

/-- The text of a value. -/
def valueText : Log.Value → String
  | .text s => s
  | .number n => toString n
  | .flag b => if b then "true" else "false"

/-- The word for a severity. -/
def levelText : Log.Level → String
  | .error => "ERROR"
  | .warn => "WARN"
  | .info => "INFO"
  | .debug => "DEBUG"
  | .trace => "TRACE"

/-- The line of an event. -/
def eventText (e : Log.Event) : String :=
  levelText e.level ++ " " ++ e.message ++
    String.join (e.fields.map fun f => " " ++ f.1 ++ "=" ++ valueText f.2)

instance : FileAccess IO where
  readText path := do
    return (← ifDone (IO.FS.readBinFile path)).bind String.fromUTF8?
  makeFolder path := do
    return (← ifDone (IO.FS.createDirAll path)).isSome
  NewFile := IO.FS.Handle × String
  newFile folder := ifDone (newFileIn folder)
  write file text := do
    return (← ifDone (do file.1.putStr text; file.1.flush)).isSome
  moveTo file path := do
    return (← ifDone (IO.FS.rename file.2 path)).isSome
  discard file := do
    let _ ← ifDone (IO.FS.removeFile file.2)
  note events := do
    for e in events do
      if Log.Level.info.admits e.level then IO.eprintln (eventText e)

instance : Console IO where
  print text := IO.print text

end OntologySchema

open OntologySchema in
/-- Run the program and report how it ended. -/
def main (arguments : List String) : IO UInt32 := do
  let ending ← program .standard arguments
  if let some complaint := ending.complaint? then IO.eprintln complaint
  return ending.status.toUInt32
