import OntologySchema.Files.Access

/-!
# Files as a state

A state that holds files, with what each access to files makes of it. A `World` is such a state and what was
printed.
-/

namespace OntologySchema

/-- A state that holds files. An access gives the state after it, and what came of it. -/
class FileSystem (σ : Type) where
  /-- The places at which files can be: in each folder, one for each name. -/
  Place : Type
  /-- The content of the file at a place, if there is a file. -/
  contents (s : σ) : Place → Option ByteArray
  /-- The place that a path leads to. -/
  place? (s : σ) (path : String) : Option Place
  NewFile : Type
  /-- Where a new file is for the time being. -/
  placeOf (file : NewFile) : Place
  readText (s : σ) (path : String) : Option String
  makeFolder (s : σ) (path : String) : σ × Bool
  newFile (s : σ) (folder : String) : σ × Option NewFile
  write (s : σ) (file : NewFile) (text : String) : σ × Bool
  moveTo (s : σ) (file : NewFile) (path : String) : σ × Bool
  discard (s : σ) (file : NewFile) : σ

variable {σ : Type} [FileSystem σ]

/-- Do what changes the state and has a result. -/
def act {α : Type} (f : σ → σ × α) : StateM σ α := fun s => ((f s).2, (f s).1)

instance : FileAccess (StateM σ) where
  NewFile := FileSystem.NewFile σ
  readText path := fun s => (FileSystem.readText s path, s)
  makeFolder path := act (FileSystem.makeFolder · path)
  newFile folder := act (FileSystem.newFile · folder)
  write file text := act (FileSystem.write · file text)
  moveTo file path := act (FileSystem.moveTo · file path)
  discard file := modify (FileSystem.discard · file)
  note _ := pure ()

/-- Files, and what was printed. -/
structure World (σ : Type) where
  files : σ
  printed : String := ""

namespace World

/-- Do something to the files. -/
def onFiles {α : Type} (f : σ → σ × α) (w : World σ) : World σ × α :=
  ({ w with files := (f w.files).1 }, (f w.files).2)

instance : FileSystem (World σ) where
  Place := FileSystem.Place σ
  contents w := FileSystem.contents w.files
  place? w := FileSystem.place? w.files
  NewFile := FileSystem.NewFile σ
  placeOf := FileSystem.placeOf
  readText w := FileSystem.readText w.files
  makeFolder w path := w.onFiles (FileSystem.makeFolder · path)
  newFile w folder := w.onFiles (FileSystem.newFile · folder)
  write w file text := w.onFiles (FileSystem.write · file text)
  moveTo w file path := w.onFiles (FileSystem.moveTo · file path)
  discard w file := { w with files := FileSystem.discard w.files file }

instance : Console (StateM (World σ)) where
  print text := modify fun w => { w with printed := w.printed ++ text }

end World

end OntologySchema
