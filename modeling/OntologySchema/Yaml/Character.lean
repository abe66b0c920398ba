import OntologySchema.Text.Case

/-!
# Characters of YAML

Which characters a text may hold, which of them separate words and end lines, and where in a text a
reader stands.

All readers see a text whose line ends are line feeds or one of the two Unicode separators (`normal`
brings it into that form).
-/

namespace OntologySchema.Yaml

/-- Characters that separate words on a line. -/
def isBlank (c : Char) : Bool := c = ' ' || c = '\t'

/-- Characters that end a line. -/
def isBreak (c : Char) : Bool := c = '\n' || c = '\u2028' || c = '\u2029'

/-- Characters that a text may hold at all. -/
def isAllowed (c : Char) : Bool :=
  let n := c.toNat
  n = 9 || n = 10 || n = 13 || (0x20 ≤ n && n ≤ 0x7E) || n = 0x85 || (0xA0 ≤ n && n ≤ 0xFFFD) ||
    0x10000 ≤ n

/-- A text with line feeds as line ends. -/
def normal : List Char → List Char
  | [] => []
  | '\r' :: '\n' :: cs => '\n' :: normal cs
  | c :: cs => (if c = '\r' || c = '\u0085' then '\n' else c) :: normal cs

/-- Whether a word ends where this text starts. -/
def endsWord : List Char → Bool
  | [] => true
  | c :: _ => isBlank c || isBreak c

/-- Whether a text starts with a document marker: three times `mark`, as a word. -/
def isMarker (mark : Char) : List Char → Bool
  | a :: b :: c :: rest => a = mark && b = mark && c = mark && endsWord rest
  | _ => false

/-- Whether a text starts with either document marker. -/
def startsMarker (cs : List Char) : Bool := isMarker '-' cs || isMarker '.' cs

/-- Characters of the names of anchors, directives and tag handles. -/
def isNameChar (c : Char) : Bool :=
  Text.isUpper c || Text.isLower c || Text.isDigit c || c = '_' || c = '-'

/-- Whether a line holds blanks and a comment at most. -/
def isIdle (cs : List Char) : Bool :=
  match cs.dropWhile isBlank with
  | [] => true
  | c :: _ => c = '#'

/-- What follows the line at the start of a text, if that line holds blanks and a comment at most. -/
def afterIdleLine? (cs : List Char) : Option (List Char) :=
  if isIdle (cs.takeWhile (!isBreak ·)) then some ((cs.dropWhile (!isBreak ·)).drop 1) else none

/-! ### Positions -/

/-- Where a reader stands in a text. -/
structure Position where
  line : Nat := 0
  column : Nat := 0
  deriving DecidableEq, Repr

namespace Position

/-- The position behind a character. -/
def after (p : Position) (c : Char) : Position :=
  if isBreak c then ⟨p.line + 1, 0⟩ else ⟨p.line, p.column + 1⟩

/-- The position behind some characters. -/
def afterAll (p : Position) (cs : List Char) : Position := cs.foldl after p

end Position

end OntologySchema.Yaml
