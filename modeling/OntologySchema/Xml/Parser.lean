import OntologySchema.Xml.Basic

/-!
# Reading XML

A text is cut into markup and plain text, and these are put together with a stack of the elements that
are not closed yet. Reading ends with the end of the root element; what comes after it may be anything,
so a fault in the text is itself a token and counts only when it is reached.
-/

namespace OntologySchema.Xml

/-- The parts of an XML text. Comments and processing instructions have none. -/
inductive Token where
  | text (cs : List Char)
  | cdata (cs : List Char)
  /-- A start tag; an empty element is closed at once. -/
  | opened (name : String) (attributes : List Char) (empty : Bool)
  | closed (name : String)
  | doctype
  | fault
  deriving Repr

/-- What is being read; characters that were read are reversed. -/
inductive Mode where
  | text (read : List Char)
  | tag (read : List Char) (quote : Option Char)
  | endTag (read : List Char)
  | instruction (read : List Char)
  | comment
  | section (read : List Char)
  | doctype (depth : Nat) (read : List Char)

/-- The token of a text that was read, if there is any. -/
def textToken (read : List Char) : List Token := if read.isEmpty then [] else [.text read.reverse]

/-- The token of what was read between the brackets of a start tag. -/
def startToken (read : List Char) : Token :=
  let make (cs : List Char) (empty : Bool) : Token :=
    .opened (String.ofList (cs.takeWhile (!isSpace ·))) (cs.dropWhile (!isSpace ·)) empty
  match read with
  | '/' :: front => make front.reverse true
  | read => make read.reverse false

/-- The token of what was read of an end tag. White space after its name does not count. -/
def endToken (read : List Char) : Token :=
  match read.dropWhile isSpace with
  | [] => .closed (String.ofList read.reverse)
  | name => .closed (String.ofList name.reverse)

/-- The tokens of what was read of a processing instruction: none, unless it is not well formed. -/
def instructionTokens (read : List Char) : List Token :=
  match read with
  | '?' :: _ :: _ => []
  | _ => [.fault]

/-- Lowercase letters of ASCII. -/
def asciiLower (cs : List Char) : List Char := cs.map Char.toLower

/-- The token of what was read of a section. -/
def sectionToken (read : List Char) : Token :=
  let cs := read.reverse
  if asciiLower (cs.take 6) = "cdata[".toList then .cdata (cs.drop 6) else .fault

/-- The token of what was read of a document type. -/
def doctypeToken (read : List Char) : Token :=
  let cs := read.reverse
  if asciiLower (cs.take 7) = "doctype".toList && (cs.drop 7).any (!isSpace ·) then .doctype
  else .fault

/-- The tokens of a text. -/
def scan : Mode → List Char → List Token
  | .text r, '<' :: '!' :: '-' :: '-' :: cs => textToken r ++ scan .comment cs
  | .text r, '<' :: '!' :: '[' :: cs => textToken r ++ scan (.section []) cs
  | .text r, '<' :: '!' :: 'D' :: cs => textToken r ++ scan (.doctype 0 ['D']) cs
  | .text r, '<' :: '!' :: 'd' :: cs => textToken r ++ scan (.doctype 0 ['d']) cs
  | .text r, '<' :: '!' :: _ => textToken r ++ [.fault]
  | .text r, '<' :: '/' :: cs => textToken r ++ scan (.endTag []) cs
  | .text r, '<' :: '?' :: cs => textToken r ++ scan (.instruction []) cs
  | .text r, ['<'] => textToken r
  | .text r, '<' :: cs => textToken r ++ scan (.tag [] none) cs
  | .text r, c :: cs => scan (.text (c :: r)) cs
  | .text r, [] => textToken r
  | .tag _ _, [] => [.fault]
  | .tag r none, c :: cs =>
    if c = '>' then startToken r :: scan (.text []) cs
    else scan (.tag (c :: r) (if c = '"' || c = '\'' then some c else none)) cs
  | .tag r (some q), c :: cs => scan (.tag (c :: r) (if c = q then none else some q)) cs
  | .endTag r, [] => [endToken r]
  | .endTag r, c :: cs =>
    if c = '>' then endToken r :: scan (.text []) cs else scan (.endTag (c :: r)) cs
  | .instruction r, [] => instructionTokens r
  | .instruction r, c :: cs =>
    if c = '>' then instructionTokens r ++ scan (.text []) cs else scan (.instruction (c :: r)) cs
  | .comment, '-' :: '-' :: '>' :: cs => scan (.text []) cs
  | .comment, _ :: cs => scan .comment cs
  | .comment, [] => [.fault]
  | .section r, ']' :: ']' :: '>' :: cs => sectionToken r :: scan (.text []) cs
  | .section r, c :: cs => scan (.section (c :: r)) cs
  | .section _, [] => [.fault]
  | .doctype _ _, [] => [.fault]
  | .doctype depth r, c :: cs =>
    if c = '>' then
      match depth with
      | 0 => doctypeToken r :: scan (.text []) cs
      | depth + 1 => scan (.doctype depth (c :: r)) cs
    else scan (.doctype (if c = '<' then depth + 1 else depth) (c :: r)) cs

/-- An element that is not closed yet, its contents and the current stretch of text reversed. -/
structure OpenElement where
  name : String
  attributes : List Char
  contents : List Node := []
  pieces : List Piece := []

namespace OpenElement

/-- End the current stretch of text. -/
def endText (e : OpenElement) : OpenElement :=
  { e with contents := .text e.pieces.reverse :: e.contents, pieces := [] }

/-- Add a piece to the current stretch of text. -/
def addPiece (e : OpenElement) (p : Piece) : OpenElement := { e with pieces := p :: e.pieces }

/-- Add an element. -/
def addElement (e : OpenElement) (n : Node) : OpenElement :=
  let e := e.endText
  { e with contents := n :: e.contents }

/-- The element, closed. -/
def close (e : OpenElement) : Node :=
  let e := e.endText
  .element e.name e.attributes e.contents.reverse

end OpenElement

/-- The root element that tokens make. -/
def build : List OpenElement → List Token → Option Node
  | _, [] => none
  | _, .fault :: _ => none
  | [], .text cs :: rest => if cs.all isSpace then build [] rest else none
  | [], .cdata _ :: _ => none
  | [], .closed _ :: _ => none
  | [], .doctype :: rest => build [] rest
  | [], .opened name attributes empty :: rest =>
    if empty then some (.element name attributes []) else build [⟨name, attributes, [], []⟩] rest
  | e :: es, .text cs :: rest => build (e.addPiece (.plain cs) :: es) rest
  | e :: es, .cdata cs :: rest => build (e.addPiece (.cdata cs) :: es) rest
  | e :: es, .doctype :: rest => build (e.endText :: es) rest
  | e :: es, .opened name attributes empty :: rest =>
    if empty then build (e.addElement (.element name attributes []) :: es) rest
    else build (⟨name, attributes, [], []⟩ :: e.endText :: es) rest
  | e :: es, .closed name :: rest =>
    if name = e.name then
      match es with
      | [] => some e.close
      | e' :: es => build (e'.addElement e.close :: es) rest
    else none

/-- The root element of a text. A byte order mark at its beginning does not count. -/
def parse? (s : String) : Option Node :=
  let cs := match s.toList with
    | '\ufeff' :: cs => cs
    | cs => cs
  build [] (scan (.text []) cs)

end OntologySchema.Xml
