import OntologySchema.Text.Digit

/-!
# XML trees

An element has a name, its attributes as they are written, and its contents: elements and, before,
between and after them, stretches of text, which may be empty. A stretch of text consists of pieces,
plain text and CDATA sections; comments and processing instructions leave no trace in it, and a document
type ends it.

References to characters are resolved when a text is read, not before, so that what nobody reads may
hold any reference.
-/

namespace OntologySchema.Xml

/-- The white space of XML. -/
def isSpace (c : Char) : Bool := c = ' ' || c = '\t' || c = '\n' || c = '\r'

/-- A piece of a text. -/
inductive Piece where
  /-- Plain text, in which references are to be resolved. -/
  | plain (cs : List Char)
  /-- A CDATA section, which stands for itself. -/
  | cdata (cs : List Char)
  deriving DecidableEq, Repr

/-- What an element holds. -/
inductive Node where
  | text (pieces : List Piece)
  | element (name : String) (attributes : List Char) (contents : List Node)
  deriving Repr

/-! ### References -/

/-- The number that digits of a base denote. -/
def digits? (base : Nat) : Nat → List Char → Option Nat
  | acc, [] => some acc
  | acc, c :: cs =>
    match Text.hexValue? c with
    | some d => if d < base then digits? base (acc * base + d) cs else none
    | none => none

/-- The character with a number; zero and surrogates are none. -/
def charOf? (n : Nat) : Option Char := if n ≠ 0 && n.isValidChar then some (Char.ofNat n) else none

/-- The character that a reference stands for, given what is between the ampersand and the semicolon:
one of five names, or a number of at most seven decimal or six hexadecimal digits. -/
def reference? : List Char → Option Char
  | '#' :: 'x' :: ds => if ds.length ≤ 6 then (digits? 16 0 ds).bind charOf? else none
  | '#' :: ds => if ds.length ≤ 7 then (digits? 10 0 ds).bind charOf? else none
  | name =>
    [("lt", '<'), ("gt", '>'), ("amp", '&'), ("apos", '\''), ("quot", '"')].lookup
      (String.ofList name)

/-- A text with its references resolved; `name` is what was read of an unfinished one, reversed. -/
def resolveFrom : (name : Option (List Char)) → List Char → Option (List Char)
  | none, [] => some []
  | some _, [] => none
  | none, c :: cs =>
    if c = '&' then resolveFrom (some []) cs else (resolveFrom none cs).map (c :: ·)
  | some name, c :: cs =>
    if c = ';' then
      match reference? name.reverse with
      | some r => (resolveFrom none cs).map (r :: ·)
      | none => none
    else if c = '&' then none
    else resolveFrom (some (c :: name)) cs

/-- A text with its references resolved, unless one of them stands for nothing. -/
def resolve? (cs : List Char) : Option (List Char) := resolveFrom none cs

/-- The characters of a stretch of text. -/
def resolvePieces? : List Piece → Option (List Char)
  | [] => some []
  | .plain cs :: rest => do return (← resolve? cs) ++ (← resolvePieces? rest)
  | .cdata cs :: rest => do return cs ++ (← resolvePieces? rest)

mutual

/-- Whether all references in a node stand for something. -/
def Node.resolves : Node → Bool
  | .text pieces => (resolvePieces? pieces).isSome
  | .element _ _ contents => resolveAll contents

/-- Whether all references in some nodes stand for something. -/
def resolveAll : List Node → Bool
  | [] => true
  | n :: ns => n.resolves && resolveAll ns

end

/-! ### White space at the ends of a text -/

/-- Pieces without the plain white space at their start. -/
def trimStart : List Piece → List Piece
  | .plain cs :: rest =>
    match cs.dropWhile isSpace with
    | [] => trimStart rest
    | cs => .plain cs :: rest
  | pieces => pieces

/-- Pieces the last of which, if it is plain, has no white space at its end. -/
def trimLast : List Piece → List Piece
  | [] => []
  | [.plain cs] => [.plain (cs.reverse.dropWhile isSpace).reverse]
  | p :: rest => p :: trimLast rest

/-- The pieces of a stretch of text that count: those without the white space at its ends, or, if it is
to keep what it starts with, without that at its end. White space alone does not count. -/
def trimmed (keepsStart : Bool) (pieces : List Piece) : List Piece :=
  match trimLast (if keepsStart then pieces else trimStart pieces) with
  | [.plain []] => []
  | pieces => pieces

/-- Whether a node is a stretch of text that is nothing but white space. -/
def Node.isBlank : Node → Bool
  | .text pieces => (trimmed false pieces).isEmpty
  | .element _ _ _ => false

/-- Whether what counts in an element starts with text. -/
def Node.startsWithText : Node → Bool
  | .element _ _ (.text pieces :: _) => !(trimStart pieces).isEmpty
  | _ => false

/-! ### Attributes -/

/-- How far the reading of attributes has come; characters that were read are reversed. -/
inductive AttributeState where
  | between
  | inName (name : List Char)
  | afterName (name : List Char)
  | beforeValue (name : List Char)
  | inValue (name : List Char) (quote : Char) (value : List Char)

/-- The attributes in a text, with their names in full and their values as they are written. -/
def scanAttributes : AttributeState → List Char → Option (List (String × List Char))
  | .between, [] => some []
  | _, [] => none
  | .between, c :: cs => scanAttributes (if isSpace c then .between else .inName [c]) cs
  | .inName n, c :: cs =>
    scanAttributes
      (if c = '=' then .beforeValue n else if isSpace c then .afterName n else .inName (c :: n)) cs
  | .afterName n, c :: cs =>
    if c = '=' then scanAttributes (.beforeValue n) cs
    else if isSpace c then scanAttributes (.afterName n) cs
    else none
  | .beforeValue n, c :: cs =>
    if c = '"' || c = '\'' then scanAttributes (.inValue n c []) cs
    else if isSpace c then scanAttributes (.beforeValue n) cs
    else none
  | .inValue n q v, c :: cs =>
    if c = q then
      (scanAttributes .between cs).map ((String.ofList n.reverse, v.reverse) :: ·)
    else scanAttributes (.inValue n q (c :: v)) cs

/-- The attributes of an element; no two may have the same full name. -/
def attributes? (cs : List Char) : Option (List (String × List Char)) := do
  let attributes ← scanAttributes .between cs
  if (attributes.map (·.1)).Nodup then return attributes else none

/-! ### Names -/

/-- A name without its namespace prefix: what follows the first colon. -/
def localName (name : String) : String :=
  match name.toList.dropWhile (· ≠ ':') with
  | _ :: after => String.ofList after
  | [] => name

/-- Whether an attribute declares a namespace. -/
def isNamespace (name : String) : Bool :=
  name = "xmlns" || "xmlns:".toList.isPrefixOf name.toList

end OntologySchema.Xml
