import OntologySchema.Text.Digit
import OntologySchema.Yaml.Character

/-!
# Tags

A tag says what kind of thing a value is. It is a URI, written out between angle brackets or shortened by
a handle: `!!null` is short for `tag:yaml.org,2002:null`. Directives in front of a document may give
handles a meaning, also those that have one.

A URI is a row of octets. In writing, an octet may be given by two hexadecimal digits after a percent
sign; what is given so has to be UTF-8 as far as the first octet tells. An octet of zero ends a URI.
-/

namespace OntologySchema.Yaml

/-- A tag: the octets of its URI. -/
abbrev Tag : Type := List UInt8

/-- The octets of a text. -/
def octets (s : String) : List UInt8 := s.toUTF8.toList

namespace Tag

/-- The tag that leaves open what a value is. -/
def unspecific : Tag := octets "!"

/-- The tag of what is not there. -/
def null : Tag := octets "tag:yaml.org,2002:null"

/-- The tag of truth values. -/
def bool : Tag := octets "tag:yaml.org,2002:bool"

end Tag

/-! ### Reading URIs -/

/-- Characters that stand for themselves in a URI. In a wide URI a comma and brackets do, too. -/
def isUriChar (wide : Bool) (c : Char) : Bool :=
  isNameChar c || ";/?:@&=+$.!~*'()".toList.contains c || (wide && ",[]".toList.contains c)

/-- How many octets of a character come after the one that it starts with. -/
def octetsAfter? (octet : Nat) : Option Nat :=
  if octet < 0x80 then some 0
  else if 0xC0 ≤ octet && octet < 0xE0 then some 1
  else if 0xE0 ≤ octet && octet < 0xF0 then some 2
  else if 0xF0 ≤ octet && octet < 0xF8 then some 3
  else none

/-- The octets at the start of a text, of which the first `due` go on with a character, and what follows
them. -/
def uriFrom (wide : Bool) : (due : Nat) → List Char → Option (List UInt8 × List Char)
  | due, '%' :: a :: b :: cs => do
    let octet := 16 * (← Text.hexValue? a) + (← Text.hexValue? b)
    let due ← match due with
      | 0 => octetsAfter? octet
      | due + 1 => if 0x80 ≤ octet && octet < 0xC0 then some due else none
    let (rest, after) ← uriFrom wide due cs
    return (octet.toUInt8 :: rest, after)
  | 0, c :: cs =>
    if isUriChar wide c then
      (uriFrom wide 0 cs).map fun r => (c.toNat.toUInt8 :: r.1, r.2)
    else some ([], c :: cs)
  | 0, [] => some ([], [])
  | _ + 1, _ => none

/-- The URI at the start of a text. Something has to be written. -/
def uri? (wide : Bool) (cs : List Char) : Option (List UInt8 × List Char) :=
  match uriFrom wide 0 cs with
  | some (octet :: more, rest) => some ((octet :: more).takeWhile (· ≠ 0), rest)
  | _ => none

/-! ### Written tags -/

/-- A tag as it is written. -/
inductive WrittenTag where
  | full (uri : List UInt8)
  | short (handle : String) (suffix : List UInt8)
  deriving DecidableEq, Repr

/-- A written tag after its exclamation mark, and what follows it. A handle is a name between exclamation
marks, or one such mark. -/
def writtenTag? (cs : List Char) : Option (WrittenTag × List Char) :=
  let name := cs.takeWhile isNameChar
  match cs, cs.drop name.length with
  | '<' :: cs, _ =>
    match uri? true cs with
    | some (uri, '>' :: rest) => some (.full uri, rest)
    | _ => none
  | _, '!' :: rest =>
    (uri? false rest).map fun r => (.short (String.ofList ('!' :: name ++ ['!'])) r.1, r.2)
  | cs, _ =>
    (uriFrom false 0 cs).map fun r =>
      match r.1.takeWhile (· ≠ 0) with
      | [] => (.full Tag.unspecific, r.2)
      | suffix => (.short "!" suffix, r.2)

/-- A written tag after its exclamation mark, and what follows it: the end of a word, or a comma in a flow
mapping. -/
def tag? (flow : Bool) (cs : List Char) : Option (WrittenTag × List Char) :=
  (writtenTag? cs).filter fun r => endsWord r.2 || (flow && r.2.head? = some ',')

/-! ### Handles -/

/-- What handles stand for, the first of two with one name counting. -/
abbrev Handles : Type := List (String × List UInt8)

/-- The handles that have a meaning everywhere. -/
def standardHandles : Handles := [("!", octets "!"), ("!!", octets "tag:yaml.org,2002:")]

/-- The tag that is meant by a written one, unless its handle stands for nothing. -/
def WrittenTag.tag? (handles : Handles) : WrittenTag → Option Tag
  | .full uri => some uri
  | .short handle suffix => (handles.lookup handle).map (· ++ suffix)

/-! ### Directives -/

/-- A directive in front of a document. -/
inductive Directive where
  | version (major minor : Nat)
  | handle (name : String) (start : List UInt8)
  deriving DecidableEq, Repr

/-- A number of at most nine digits, and what follows it. -/
def number? (cs : List Char) : Option (Nat × List Char) :=
  match cs.takeWhile Text.isDigit with
  | [] => none
  | ds =>
    if ds.length ≤ 9 then
      some (ds.foldl (fun n d => 10 * n + (d.toNat - 48)) 0, cs.drop ds.length)
    else none

/-- The handle at the start of a text, and what follows it. -/
def handle? : List Char → Option (String × List Char)
  | '!' :: cs =>
    let name := cs.takeWhile isNameChar
    match name, cs.drop name.length with
    | name, '!' :: rest => some (String.ofList ('!' :: name ++ ['!']), rest)
    | [], rest => some ("!", rest)
    | _, _ => none
  | _ => none

/-- What a directive says after its name. -/
def Directive.ofArguments? (name : List Char) (cs : List Char) : Option (Directive × List Char) :=
  match String.ofList name with
  | "YAML" => do
    let (major, rest) ← number? (cs.dropWhile isBlank)
    match rest with
    | '.' :: rest => do
      let (minor, rest) ← number? rest
      return (.version major minor, rest)
    | _ => none
  | "TAG" => do
    let (short, rest) ← handle? (cs.dropWhile isBlank)
    if rest.head?.any isBlank then
      let (start, rest) ← uri? true (rest.dropWhile isBlank)
      if endsWord rest then return (.handle short start, rest) else none
    else none
  | _ => none

/-- The directive after its percent sign, and what follows the line that it stands on. -/
def directive? (cs : List Char) : Option (Directive × List Char) := do
  let name := cs.takeWhile isNameChar
  let rest := cs.drop name.length
  if endsWord rest then
    let (d, rest) ← Directive.ofArguments? name rest
    return (d, ← afterIdleLine? rest)
  else none

/-- The handles that some directives leave: there is at most one version, known here, and no handle is given
twice. -/
def handles? (ds : List Directive) : Option Handles :=
  let versions := ds.filterMap fun d => match d with
    | .version major minor => some (major, minor)
    | .handle _ _ => none
  let handles := ds.filterMap fun d => match d with
    | .version _ _ => none
    | .handle name start => some (name, start)
  if versions.length ≤ 1 && versions.all (fun v => v = (1, 1) || v = (1, 2)) &&
      (handles.map (·.1)).Nodup then
    some (handles ++ standardHandles)
  else none

end OntologySchema.Yaml
