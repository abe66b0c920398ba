import OntologySchema.Text.Case
import OntologySchema.Text.Blank

/-!
# Names

Display names come from identifiers or labels; field names come from display names. A field name is
the display name in snake case: an underscore is put in front of a capital that begins a word (one
that small letters follow), then between a small letter or digit and a capital, then all is lowercase.
-/

namespace OntologySchema.Naming

open Text

/-- The characters that a name cannot hold. -/
def isSeparator (c : Char) : Bool := c = ' ' || c = '/' || c = '-'

/-- A text without spaces, slashes and hyphens. -/
def clean (s : String) : String := String.ofList (s.toList.filter (fun c => !isSeparator c))

/-- The last segment of an absolute IRI: what follows the last slash or number sign. -/
def lastSegment (iri : String) : String :=
  String.ofList (iri.toList.reverse.takeWhile (fun c => c ≠ '/' && c ≠ '#')).reverse

/-- The local part of an abbreviated IRI: what follows the first colon, if there is one. -/
def localPart (abbreviated : String) : String :=
  match splitFirst? ':' abbreviated.toList with
  | some (_, after) => String.ofList after
  | none => abbreviated

/-- Put an underscore between any character but a line feed and a capital that small letters follow,
from left to right; the capital and its small letters are passed over (the flag is set while they last). -/
def markWords : Bool → List Char → List Char
  | _, [] => []
  | inWord, c :: rest =>
    if inWord && isLower c then c :: markWords true rest
    else
      match rest with
      | u :: l :: rest' =>
        if c ≠ '\n' && isUpper u && isLower l then c :: '_' :: u :: l :: markWords true rest'
        else c :: markWords false (u :: l :: rest')
      | short => c :: markWords false short

/-- Put an underscore between a small letter or digit and a capital. -/
def markCapitals : List Char → List Char
  | [] => []
  | [c] => [c]
  | c :: u :: rest =>
    if (isLower c || isDigit c) && isUpper u then c :: '_' :: markCapitals (u :: rest)
    else c :: markCapitals (u :: rest)

/-- Snake case of a display name, for example `os_logging` of `OSLogging`. -/
def snakeCase (s : String) : String :=
  String.ofList (lower (markCapitals (markWords false (clean s).toList)))

/-- The English plural of a name, for example `Availabilities` of `Availability`. -/
def plural (s : String) : String :=
  match s.toList.reverse with
  | 'y' :: stem => String.ofList stem.reverse ++ "ies"
  | _ => s ++ "s"

end OntologySchema.Naming
