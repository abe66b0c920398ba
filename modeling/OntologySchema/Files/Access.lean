import OntologySchema.Log

/-!
# Access to files

What a run needs of the machine that it runs on. A run is written once over this; it runs on the files of a
machine and, where one wants to know what it does, on a state that holds them.

A file is put in place in two steps: a new file takes the text, and then it takes the place. Each step may fail.
-/

namespace OntologySchema

/-- Access to files from inside `m`. -/
class FileAccess (m : Type → Type) where
  /-- A new file that has no place of its own yet. -/
  NewFile : Type
  /-- The text in a file, if the file is there and holds a text. -/
  readText (path : String) : m (Option String)
  /-- Make a folder and all that it lies in; whether the folder is there in the end. -/
  makeFolder (path : String) : m Bool
  /-- A new file in a folder. -/
  newFile (folder : String) : m (Option NewFile)
  /-- Write a text to a new file; where that fails, a part of it may have been written. -/
  write (file : NewFile) (text : String) : m Bool
  /-- Let a new file take the place that a path leads to, and that of the file there. -/
  moveTo (file : NewFile) (path : String) : m Bool
  /-- Remove a new file. -/
  discard (file : NewFile) : m Unit
  /-- Take note of what happened. -/
  note (events : List Log.Event) : m Unit

/-- Access to the standard output stream from inside `m`. -/
class Console (m : Type → Type) where
  print (text : String) : m Unit

end OntologySchema
