import OntologySchema.Yaml.Scalar

/-!
# Block scalars

A block scalar is a header, `|` or `>`, and the lines below it that are indented far enough. Below `|` line
ends are kept; below `>` a single line end between two lines that start with a word folds into a blank.
The header may say how far the lines are indented and what becomes of the line ends after the last line.
-/

namespace OntologySchema.Yaml

/-- What becomes of the line ends after the last line of a block. -/
inductive Chomp where
  | strip | clip | keep
  deriving DecidableEq, Repr

/-- A line of a text and the break that ends it, if there is one. -/
structure Line where
  chars : List Char
  ending : List Char
  deriving Repr

/-- The lines of a text. -/
def linesOf : List Char → List Line
  | [] => []
  | c :: cs =>
    if isBreak c then ⟨[], [c]⟩ :: linesOf cs
    else match linesOf cs with
      | [] => [⟨[c], []⟩]
      | l :: ls => ⟨c :: l.chars, l.ending⟩ :: ls

/-- The text of some lines. -/
def joinLines (ls : List Line) : List Char := ls.flatMap fun l => l.chars ++ l.ending

/-- The header of a block. -/
structure BlockHeader where
  chomp? : Option Chomp := none
  /-- How much further than their surroundings the lines are indented. -/
  indent? : Option Nat := none
  deriving Repr

/-- The signs of a header, each of which may stand there once, and what follows them. -/
def BlockHeader.scan (h : BlockHeader) : List Char → BlockHeader × List Char
  | [] => (h, [])
  | c :: cs =>
    if (c = '+' || c = '-') && h.chomp?.isNone then
      scan { h with chomp? := some (if c = '+' then .keep else .strip) } cs
    else if '1' ≤ c && c ≤ '9' && h.indent?.isNone then
      scan { h with indent? := some (c.toNat - 48) } cs
    else (h, c :: cs)

/-- The indentation of a block that does not give it: that of the first line that is not blank, but no less
than `least` and no less than that of a blank line before it. A tab must not stand where it ends. -/
def detectIndent (least : Nat) : List Line → Option Nat
  | [] => some least
  | l :: ls =>
    let n := (l.chars.takeWhile (· = ' ')).length
    match l.chars.drop n with
    | [] => (detectIndent least ls).map (max n)
    | c :: _ => if c = '\t' then none else some (max n least)

/-- A block as far as it has been read: the line ends since its last line, and whether that line started
with a blank. -/
structure BlockState where
  ending : List Char := []
  blankLines : List Char := []
  afterBlank : Bool := false

/-- What stands between the last line of a block and a further line. -/
def BlockState.glue (s : BlockState) (folds startsBlank : Bool) : List Char :=
  if folds && s.ending = ['\n'] && !s.afterBlank && !startsBlank then
    if s.blankLines = [] then [' '] else s.blankLines
  else s.ending ++ s.blankLines

/-- What stands after the last line of a block. -/
def BlockState.tail (s : BlockState) : Chomp → List Char
  | .strip => []
  | .clip => s.ending
  | .keep => s.ending ++ s.blankLines

/-- The text of a block whose lines are indented by `indent`, and the lines after it. -/
def blockText (folds : Bool) (chomp : Chomp) (indent : Nat) :
    BlockState → List Line → Option (List Char × List Line)
  | s, [] => some (s.tail chomp, [])
  | s, l :: ls =>
    let n := (l.chars.takeWhile (· = ' ')).length
    match l.chars.drop (min n indent) with
    | [] => blockText folds chomp indent { s with blankLines := s.blankLines ++ l.ending } ls
    | c :: cs =>
      if indent ≤ n then
        (blockText folds chomp indent ⟨l.ending, [], isBlank c⟩ ls).map
          (prepend (s.glue folds (isBlank c) ++ c :: cs))
      else if c = '\t' then none
      else some (s.tail chomp, l :: ls)

/-- The block scalar whose header starts after its first sign; the lines stand in column `least` or right of
it. What is left begins with a line. -/
def block? (style : Style) (least : Nat) (cs : List Char) : Option (Scalar × List Char) :=
  match linesOf cs with
  | [] => some (⟨"", style, none⟩, [])
  | first :: ls =>
    let (h, rest) := BlockHeader.scan {} first.chars
    if isIdle rest then do
      let indent ← match h.indent? with
        | some n => some (least - 1 + n)
        | none => detectIndent least ls
      let (text, ls) ← blockText (style = .folded) (h.chomp?.getD .clip) indent {} ls
      return (⟨String.ofList text, style, none⟩, joinLines ls)
    else none

end OntologySchema.Yaml
