/-!
# Paths

A path is a text in which slashes separate names. A place that a path leads to is a list of names, from the
folder where the path starts; `.` and empty parts lead nowhere, `..` leads back.
-/

namespace OntologySchema.Path

/-- The parts of a list of characters between slashes. -/
def split : List Char → List (List Char)
  | [] => [[]]
  | c :: cs =>
    if c = '/' then [] :: split cs
    else match split cs with
      | [] => [[c]]
      | part :: parts => (c :: part) :: parts

/-- The parts of a path between slashes. -/
def parts (path : String) : List String := (split path.toList).map String.ofList

/-- Whether a path starts at the top of all files. -/
def isAbsolute (path : String) : Bool := path.toList.head? = some '/'

/-- Whether a path can lead anywhere: it has fewer than 4096 bytes, each part has fewer than 256, and no
character of it is NUL. -/
def isUsable (path : String) : Bool :=
  path.utf8ByteSize < 4096 && (parts path).all (·.utf8ByteSize < 256) &&
    path.toList.all (·.toNat ≠ 0)

/-- A path without slashes and parts `.` at its end; the first part is kept as it is. -/
def trimEnd (parts : List String) : List String :=
  match parts with
  | [] => []
  | first :: rest => first :: (rest.reverse.dropWhile fun p => p = "" || p = ".").reverse

/-- The folder that holds what a path leads to: the path without its last name, and `.` if it has no
other. -/
def folder (path : String) : String :=
  match trimEnd ((trimEnd (parts path)).dropLast) with
  | [] => "."
  | [""] => if isAbsolute path then "/" else "."
  | parts => "/".intercalate parts

end OntologySchema.Path
