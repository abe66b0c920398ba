import OntologySchema.Text.Digit
import OntologySchema.Yaml.Tag

/-!
# YAML scalars

A scalar is written plain, between quotes, or as a block of lines below a header. Plain and quoted
scalars may go over several lines: a single line break between two words folds into a blank, of several
breaks the first is dropped.

The readers here are for the first two kinds; they give back what is left of the text.
-/

namespace OntologySchema.Yaml

/-- How a scalar is written. -/
inductive Style where
  | plain | quoted | literal | folded
  deriving DecidableEq, Repr

/-- A scalar. What it stands for depends on its style and its tag. -/
structure Scalar where
  text : String
  style : Style
  tag? : Option Tag := none
  deriving DecidableEq, Repr

/-- The scalar of a place where nothing is written. -/
def Scalar.empty : Scalar := ⟨"", .plain, none⟩

/-! ### Between words -/

/-- What stands between two words of a scalar. -/
inductive Gap where
  /-- Blanks on one line, or nothing. -/
  | blanks (cs : List Char)
  /-- Line breaks, with blanks around them; `column` counts those after the last. -/
  | breaks (first : Char) (more : List Char) (column : Nat)
  /-- An escaped line break and those that follow it. -/
  | escaped (more : List Char)
  deriving Repr

namespace Gap

/-- A gap goes on with a blank or a break. -/
def add (c : Char) : Gap → Gap
  | blanks cs => if isBreak c then breaks c [] 0 else blanks (cs ++ [c])
  | breaks first more column =>
    if isBreak c then breaks first (more ++ [c]) 0 else breaks first more (column + 1)
  | escaped more => if isBreak c then escaped (more ++ [c]) else escaped more

/-- What a gap leaves in the text of a scalar. A single line feed becomes a blank, the first of several
is dropped. -/
def folded : Gap → List Char
  | blanks cs => cs
  | breaks first more _ => if first ≠ '\n' then first :: more else if more = [] then [' '] else more
  | escaped more => more

/-- The column that a gap ends in, if it has brought the reader to a new line. -/
def column? : Gap → Option Nat
  | breaks _ _ column => some column
  | _ => none

end Gap

/-- What is left to read, and whether only blanks stand before it on its line. -/
structure Rest where
  startsLine : Bool
  chars : List Char
  deriving Repr

/-- The text of a scalar with characters put in front of it. -/
def prepend {α : Type} (front : List Char) (r : List Char × α) : List Char × α := (front ++ r.1, r.2)

/-! ### Quoted scalars -/

/-- The rest of a scalar after its opening single quote; a quote inside is written twice. -/
def singleQuoted : Gap → List Char → Option (List Char × List Char)
  | _, [] => none
  | gap, '\'' :: '\'' :: cs => (singleQuoted (.blanks []) cs).map (prepend (gap.folded ++ ['\'']))
  | gap, '\'' :: cs => some (gap.folded, cs)
  | gap, c :: cs =>
    if isBreak c && startsMarker cs then none
    else if isBlank c || isBreak c then singleQuoted (gap.add c) cs
    else (singleQuoted (.blanks []) cs).map (prepend (gap.folded ++ [c]))

/-- The character that an escape of one letter denotes. -/
def escaped? : Char → Option Char
  | '0' => some '\x00'
  | 'a' => some '\x07'
  | 'b' => some '\x08'
  | 't' => some '\t'
  | '\t' => some '\t'
  | 'n' => some '\n'
  | 'v' => some '\x0b'
  | 'f' => some '\x0c'
  | 'r' => some '\r'
  | 'e' => some '\x1b'
  | ' ' => some ' '
  | '"' => some '"'
  | '/' => some '/'
  | '\\' => some '\\'
  | 'N' => some '\u0085'
  | '_' => some '\u00a0'
  | 'L' => some '\u2028'
  | 'P' => some '\u2029'
  | _ => none

/-- The number of digits of an escape that gives a character by its number. -/
def digitsAfter? : Char → Option Nat
  | 'x' => some 2
  | 'u' => some 4
  | 'U' => some 8
  | _ => none

/-- How far the reading of a double-quoted scalar has come. -/
inductive QuoteState where
  /-- In the text, after a gap. -/
  | inText (gap : Gap)
  /-- After a backslash. -/
  | inEscape
  /-- Within the digits of an escape, with `left` of them to come after the next. -/
  | inNumber (left value : Nat)

/-- The rest of a scalar after its opening double quote. -/
def doubleQuoted : QuoteState → List Char → Option (List Char × List Char)
  | _, [] => none
  | .inText gap, c :: cs =>
    if c = '"' then some (gap.folded, cs)
    else if c = '\\' then (doubleQuoted .inEscape cs).map (prepend gap.folded)
    else if isBreak c && startsMarker cs then none
    else if isBlank c || isBreak c then doubleQuoted (.inText (gap.add c)) cs
    else (doubleQuoted (.inText (.blanks [])) cs).map (prepend (gap.folded ++ [c]))
  | .inEscape, c :: cs =>
    if isBreak c then if startsMarker cs then none else doubleQuoted (.inText (.escaped [])) cs
    else match digitsAfter? c, escaped? c with
      | some n, _ => doubleQuoted (.inNumber (n - 1) 0) cs
      | none, some d => (doubleQuoted (.inText (.blanks [])) cs).map (prepend [d])
      | none, none => none
  | .inNumber left value, c :: cs =>
    match Text.hexValue? c, left with
    | none, _ => none
    | some d, left + 1 => doubleQuoted (.inNumber left (value * 16 + d)) cs
    | some d, 0 =>
      if (value * 16 + d).isValidChar then
        (doubleQuoted (.inText (.blanks [])) cs).map (prepend [Char.ofNat (value * 16 + d)])
      else none

/-! ### Plain scalars -/

/-- Whether a text starts with a plain scalar, in a flow mapping or outside. -/
def startsPlain (flow : Bool) : List Char → Bool
  | [] => false
  | c :: cs =>
    if c = '-' then !endsWord cs
    else if c = '?' || c = ':' then !flow && !endsWord cs
    else !(endsWord (c :: cs) || ",[]\x7b\x7d#&*!|>'\"%@`".toList.contains c)

/-- Whether the word after a gap does not belong to the plain scalar before it any more: it is a comment,
stands left of column `least`, marks a document, or starts with what ends a plain scalar anywhere. -/
def endsPlain (flow : Bool) (least : Nat) (gap : Gap) (c : Char) (cs : List Char) : Bool :=
  (c = '#' && !gap.folded.isEmpty) ||
    gap.column?.any (fun n => (!flow && n < least) || (n = 0 && startsMarker (c :: cs))) ||
    (c = ':' && endsWord cs) || (flow && ",[]\x7b\x7d".toList.contains c)

/-- The rest of a plain scalar. -/
def plain (flow : Bool) (least : Nat) : Gap → List Char → Option (List Char × Rest)
  | gap, [] => some ([], ⟨gap.column?.isSome, []⟩)
  | gap, c :: cs =>
    if isBlank c && c = '\t' && gap.column?.any (· < least) then none
    else if isBlank c || isBreak c then plain flow least (gap.add c) cs
    else if endsPlain flow least gap c cs then some ([], ⟨gap.column?.isSome, c :: cs⟩)
    else if flow && c = ':' && cs.head?.any (",?[]\x7b\x7d".toList.contains ·) then none
    else (plain flow least (.blanks []) cs).map (prepend (gap.folded ++ [c]))

/-- The scalar at the start of a text, if it is quoted or plain; a plain one goes on in lines that start in
column `least` or right of it. -/
def inline? (flow : Bool) (least : Nat) (cs : List Char) : Option (Scalar × Rest) :=
  match cs with
  | '"' :: rest =>
    (doubleQuoted (.inText (.blanks [])) rest).map fun r =>
      (⟨String.ofList r.1, .quoted, none⟩, ⟨false, r.2⟩)
  | '\'' :: rest =>
    (singleQuoted (.blanks []) rest).map fun r => (⟨String.ofList r.1, .quoted, none⟩, ⟨false, r.2⟩)
  | _ =>
    if startsPlain flow cs then
      (plain flow least (.blanks []) cs).map fun r => (⟨String.ofList r.1, .plain, none⟩, r.2)
    else none

end OntologySchema.Yaml
