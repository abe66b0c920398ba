import OntologySchema.Yaml.Block

/-!
# Tokens of YAML

A text is a row of tokens: signs, names of anchors, tags, scalars, and what follows from the columns in
which they stand. A mapping in block form has no signs for its beginning and its end: it begins with its
first key and ends before the first token left of its keys. Nor has a key a sign of its own, unless it
has a question mark: what was read turns out to be a key when its colon comes. `Scan` remembers where a
key may have begun; such a key has to stand on one line and may not be long.

Collections inside a mapping are refused here.
-/

namespace OntologySchema.Yaml

/-- A token. -/
inductive Token where
  | directive (d : Directive)
  | documentStart
  | documentEnd
  /-- A mapping in block form begins. -/
  | blockStart
  | blockEnd
  /-- A mapping between braces begins. -/
  | flowStart
  | flowEnd
  | comma
  /-- A key comes next. -/
  | key
  /-- A value comes next. -/
  | value
  | anchor (name : String)
  | alias (name : String)
  | tag (t : WrittenTag)
  | scalar (s : Scalar)
  deriving DecidableEq, Repr

/-- A place where a key may have begun. -/
structure KeyStart where
  position : Position
  /-- The number of tokens before it. -/
  before : Nat
  /-- Whether nothing but a key can stand there. -/
  required : Bool
  deriving DecidableEq, Repr

/-- How far a key may reach on its line. -/
def keyReach : Nat := 1024

/-- How far the reading of tokens has come. -/
structure Scan where
  position : Position := {}
  /-- The column of the keys of the block mapping that is open. -/
  column? : Option Nat := none
  /-- Whether a flow mapping is open. -/
  flow : Bool := false
  /-- Whether a key may begin with the next token. -/
  keyAllowed : Bool := true
  keyStart? : Option KeyStart := none
  /-- The tokens, the latest first. -/
  tokens : List Token := []
  deriving Repr

namespace Scan

/-- A scan with a token more. -/
def push (s : Scan) (t : Token) : Scan := { s with tokens := t :: s.tokens }

/-- A scan with a token more behind its first `n`. -/
def insert (s : Scan) (n : Nat) (t : Token) : Scan :=
  { s with tokens := s.tokens.insertIdx (s.tokens.length - n) t }

/-- Whether a key may begin with the next token. -/
def allowKey (s : Scan) (allowed : Bool) : Scan := { s with keyAllowed := allowed }

/-! ### Where a key may have begun -/

/-- What was read is no key. -/
def forgetKey? (s : Scan) : Option Scan :=
  if s.keyStart?.any (·.required) then none else some { s with keyStart? := none }

/-- What was read is no key if the reader has left its line or gone too far on it. -/
def forgetOldKey? (s : Scan) : Option Scan :=
  if s.keyStart?.any fun k =>
      k.position.line < s.position.line || k.position.column + keyReach < s.position.column then
    s.forgetKey?
  else some s

/-- A key may begin here, and has to in the column of the keys. -/
def markKey? (s : Scan) : Option Scan :=
  if s.keyAllowed then
    let required := !s.flow && s.column? = some s.position.column
    s.forgetKey?.map ({ · with keyStart? := some ⟨s.position, s.tokens.length, required⟩ })
  else some s

/-! ### Block mappings -/

/-- The block mapping ends if its keys stand right of a column. -/
def closeRightOf (s : Scan) (column : Nat) : Scan :=
  if !s.flow && s.column?.any (column < ·) then { s with column? := none }.push .blockEnd else s

/-- A key stands in a column behind the first `n` tokens: a block mapping begins, unless the key is one
of the mapping that is open. -/
def openBlock? (s : Scan) (column n : Nat) : Option Scan :=
  match s.flow, s.column? with
  | true, _ => some s
  | false, none => some ({ s with column? := some column }.insert n .blockStart)
  | false, some c => if c < column then none else some s

/-- All that is open in block form ends. -/
def boundary? (s : Scan) : Option Scan :=
  ((if !s.flow && s.column?.isSome then { s with column? := none }.push .blockEnd else s).allowKey
    false).forgetKey?

/-- The least column of the lines in which a plain scalar goes on. -/
def least (s : Scan) : Nat := s.column?.elim 0 (· + 1)

/-! ### Between tokens -/

/-- What is left of a text after blanks, comments and line ends, where it stands, and whether a key may
begin there. A byte-order mark may stand at the start of a line. In block form no tab may stand where a
key may begin. -/
def skipBlanks (flow : Bool) :
    Position → (keyAllowed comment : Bool) → List Char → Position × Bool × List Char
  | p, keyAllowed, _, [] => (p, keyAllowed, [])
  | p, keyAllowed, comment, c :: cs =>
    if isBreak c then skipBlanks flow (p.after c) (keyAllowed || !flow) false cs
    else if comment || c = ' ' || (c = '\t' && (flow || !keyAllowed)) ||
        (c = '\ufeff' && p.column = 0) then
      skipBlanks flow (p.after c) keyAllowed comment cs
    else if c = '#' then skipBlanks flow (p.after c) keyAllowed true cs
    else (p, keyAllowed, c :: cs)

/-- The scan before the next token, and what is left of a text there. -/
def next? (s : Scan) (cs : List Char) : Option (Scan × List Char) := do
  let (position, keyAllowed, rest) := skipBlanks s.flow s.position s.keyAllowed false cs
  let s ← { s with position, keyAllowed }.forgetOldKey?
  return (s.closeRightOf position.column, rest)

/-! ### Tokens -/

/-- An entry begins that has no key so far. -/
def openPair? (s : Scan) : Option Scan :=
  if s.flow then some (s.allowKey false)
  else if s.keyAllowed then s.openBlock? s.position.column s.tokens.length
  else none

/-- A question mark: a key comes next. -/
def questionMark? (s : Scan) : Option Scan := do
  return (← (← s.openPair?).forgetKey?).push .key

/-- A colon: what was read is a key, if it can be, and a value comes next. -/
def colon? (s : Scan) : Option Scan :=
  match s.keyStart? with
  | some k => do
    let s ← (s.insert k.before .key).openBlock? k.position.column k.before
    return { s with keyAllowed := false, keyStart? := none }.push .value
  | none => s.openPair?.map (·.push .value)

/-- The name of an anchor, and what follows it. -/
def anchorName? (cs : List Char) : Option (String × List Char) :=
  let name := cs.takeWhile isNameChar
  let rest := cs.drop name.length
  if !name.isEmpty && (endsWord rest || rest.head?.any ("?:,]\x7d%@`".toList.contains ·)) then
    some (String.ofList name, rest)
  else none

/-- The token at the start of a text, and what follows it. -/
def token? (s : Scan) : List Char → Option (Scan × List Char)
  | [] => none
  | c :: cs =>
    if s.position.column = 0 && c = '%' then do
      let s ← s.boundary?
      let (d, rest) ← directive? cs
      return (s.push (.directive d), rest)
    else if s.position.column = 0 && startsMarker (c :: cs) then
      s.boundary?.map fun s => (s.push (if c = '-' then .documentStart else .documentEnd), cs.drop 2)
    else if c = '?' && (s.flow || endsWord cs) then s.questionMark?.map (·, cs)
    else if c = ':' && (s.flow || endsWord cs) then s.colon?.map (·, cs)
    else if c = '\x7b' then
      if s.flow || s.column?.isSome then none
      else some ({ s with flow := true, keyAllowed := true, keyStart? := none }.push .flowStart, cs)
    else if c = '\x7d' then
      if s.flow then
        some ({ s with flow := false, keyAllowed := false, keyStart? := none }.push .flowEnd, cs)
      else none
    else if c = ',' then
      if s.flow then some ({ s with keyAllowed := true, keyStart? := none }.push .comma, cs) else none
    else if (c = '|' || c = '>') && !s.flow then do
      let s ← s.forgetKey?
      let (scalar, rest) ← block? (if c = '|' then .literal else .folded) (max 1 s.least) cs
      return ((s.allowKey true).push (.scalar scalar), rest)
    else do
      let s ← s.markKey?
      if c = '&' || c = '*' then
        let (name, rest) ← anchorName? cs
        return ((s.allowKey false).push (if c = '&' then .anchor name else .alias name), rest)
      else if c = '!' then
        let (t, rest) ← tag? s.flow cs
        return ((s.allowKey false).push (.tag t), rest)
      else
        let (scalar, rest) ← inline? s.flow s.least (c :: cs)
        return ((s.allowKey rest.startsLine).push (.scalar scalar), rest.chars)

/-- The tokens from a point on. -/
def tokensFrom (s : Scan) (cs : List Char) : Option (List Token) := do
  let (s, here) ← s.next? cs
  if here.isEmpty then return (← s.boundary?).tokens.reverse
  else
    let (t, rest) ← s.token? here
    if rest.length < cs.length then
      tokensFrom
        { t with position := s.position.afterAll (here.take (here.length - rest.length)) } rest
    else none
termination_by cs.length

end Scan

/-- The tokens of a text. -/
def tokens? (text : String) : Option (List Token) :=
  if text.toList.all isAllowed then Scan.tokensFrom {} (normal text.toList) else none

end OntologySchema.Yaml
