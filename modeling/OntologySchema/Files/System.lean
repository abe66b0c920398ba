import OntologySchema.Files.Path
import OntologySchema.Table.Basic

/-!
# A machine

What there is on a machine before anything is put there: the folders at the top, in which nothing can be put
but for the one for temporary files; the null device and an input at which nothing arrives, which can be read
and hold nothing; and other names of these that are links.
-/

namespace OntologySchema.Files.System

/-- The folders, and whether something can be put in them. -/
def folders : Table Bool := .ofList <|
  (["/", "/boot", "/dev", "/etc", "/home", "/media", "/mnt", "/opt", "/proc", "/proc/self",
    "/proc/self/fd", "/root", "/run", "/srv", "/sys", "/usr", "/var"].map (·, false)) ++ [("/tmp", true)]

/-- The files that can be read. -/
def files : Table ByteArray := .ofList [("/dev/null", .empty), ("/proc/self/fd/0", .empty)]

/-- The links, and where they lead. -/
def links : Table (List String) := .ofList
  [("/dev/fd", ["proc", "self", "fd"]), ("/dev/stdin", ["proc", "self", "fd", "0"])]

end OntologySchema.Files.System
