import OntologySchema.Files.State
import OntologySchema.Files.System

/-!
# Trees of files

All files of a machine as a value: what is in them, which folders there are, and which links. A place is given
by the names that lead to it from the top. A path starts at the top or from the working folder, and leads on
from folders only; at the top, `..` stays there. Each place has a key: the names with slashes between, from the
working folder on if the place lies below it.

A machine may have room for files of some size only. What does not fit is written as far as it does.
-/

namespace OntologySchema

/-- The files of a machine. -/
structure Files where
  /-- What is in the files, by the keys of their places. -/
  contents : Table ByteArray := Files.System.files
  /-- The folders, and whether something can be put in them. -/
  folders : Table Bool := Files.System.folders.insert "" true
  links : Table (List String) := Files.System.links
  /-- The folder where a path starts that does not start at the top; its key is empty. -/
  working : List String := ["tmp", "work"]
  /-- How many bytes a file can have, if there is a limit. -/
  room? : Option Nat := none

namespace Files

/-! ### Places -/

/-- The key of a place. -/
def key (s : Files) (names : List String) : String :=
  if s.working.isPrefixOf names then "/".intercalate (names.drop s.working.length)
  else "/" ++ "/".intercalate names

/-- Whether there is a folder at a place. -/
def isFolder (s : Files) (names : List String) : Bool := s.folders.contains (s.key names)

/-- Whether there is a folder at a place in which something can be put. -/
def isOpen (s : Files) (names : List String) : Bool := s.folders.find? (s.key names) = some true

/-- The place that a name in a folder leads to. -/
def step (s : Files) (names : List String) (name : String) : List String :=
  (s.links.find? (s.key (names ++ [name]))).getD (names ++ [name])

/-- The place that the parts of a path lead to, from a place on, through folders that are there. -/
def walk (s : Files) : List String → List String → Option (List String)
  | names, [] => some names
  | names, part :: parts =>
    if !s.isFolder names then none
    else if part = "" || part = "." then s.walk names parts
    else if part = ".." then s.walk names.dropLast parts
    else s.walk (s.step names part) parts

/-- The place where a path starts. -/
def start (s : Files) (path : String) : List String :=
  if Path.isAbsolute path then [] else s.working

/-- The place that a path leads to. -/
def locate? (s : Files) (path : String) : Option (List String) :=
  if Path.isUsable path then s.walk (s.start path) (Path.parts path) else none

/-- The place of the file that may be put at a path: it has a name, and it is no folder. -/
def target? (s : Files) (path : String) : Option (List String) := do
  let name ← (Path.parts path).getLast?
  if ["", ".", ".."].contains name then none
  let names ← s.locate? path
  if s.isFolder names then none else some names

/-! ### Reading -/

/-- The text in the file that a path leads to. -/
def text? (s : Files) (path : String) : Option String :=
  ((s.locate? path).bind fun names => s.contents.find? (s.key names)).bind String.fromUTF8?

/-! ### Folders -/

/-- Make the folders that the parts of a path lead through, from a place on; whether they are all there in
the end. -/
def makeFolders (s : Files) : List String → List String → Files × Bool
  | _, [] => (s, true)
  | names, part :: parts =>
    if part = "" || part = "." then s.makeFolders names parts
    else if part = ".." then s.makeFolders names.dropLast parts
    else if s.isFolder (s.step names part) then s.makeFolders (s.step names part) parts
    else if s.isOpen names && !s.contents.contains (s.key (s.step names part)) then
      { s with folders := s.folders.insert (s.key (s.step names part)) true }.makeFolders
        (s.step names part) parts
    else (s, false)

/-- Make the folder that a path leads to. -/
def makeFolder (s : Files) (path : String) : Files × Bool :=
  if Path.isUsable path then s.makeFolders (s.start path) (Path.parts path) else (s, false)

/-! ### New files -/

/-- The keys for new files in a folder. -/
def newKeys (s : Files) (names : List String) : List String :=
  (List.range (s.contents.size + s.folders.size + 1)).map fun n => s.key (names ++ [".new" ++ toString n])

/-- An empty file in a folder, under a name that nothing else has. -/
def newFile (s : Files) (folder : String) : Files × Option String :=
  match (s.locate? folder).filter s.isOpen with
  | none => (s, none)
  | some names =>
    match (s.newKeys names).find? fun k => !s.contents.contains k && !s.folders.contains k with
    | none => (s, none)
    | some k => ({ s with contents := s.contents.insert k .empty }, some k)

/-- Write a text to a file, as far as there is room for it. -/
def write (s : Files) (k text : String) : Files × Bool :=
  match s.contents.find? k with
  | none => (s, false)
  | some bytes =>
    let all := bytes ++ text.toUTF8
    match s.room?.filter (· < all.size) with
    | none => ({ s with contents := s.contents.insert k all }, true)
    | some room => ({ s with contents := s.contents.insert k (all.extract 0 room) }, false)

/-- Move a file to the place that a path leads to. -/
def moveTo (s : Files) (k path : String) : Files × Bool :=
  match s.contents.find? k, (s.target? path).filter fun names => s.isOpen names.dropLast with
  | some bytes, some names =>
    ({ s with contents := (s.contents.erase k).insert (s.key names) bytes }, true)
  | _, _ => (s, false)

/-- Remove a file. -/
def discard (s : Files) (k : String) : Files := { s with contents := s.contents.erase k }

instance : FileSystem Files where
  Place := String
  contents s k := s.contents.find? k
  place? s path := (s.target? path).map s.key
  NewFile := String
  placeOf := id
  readText := text?
  makeFolder := makeFolder
  newFile := newFile
  write := write
  moveTo := moveTo
  discard := discard

/-! ### More files -/

/-- The tree with a file more, and the folders that it lies in. -/
def put (s : Files) (path : String) (bytes : ByteArray) : Files :=
  let s := (s.makeFolder (Path.folder path)).1
  match s.locate? path with
  | some names => { s with contents := s.contents.insert (s.key names) bytes }
  | none => s

end Files

end OntologySchema
