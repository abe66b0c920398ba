import OntologySchema.Json.Basic

/-!
# Printing JSON

A layout says what stands at the beginning of a line and after the colon of a member. The indented
layout puts every item and member on a line of its own, two spaces deeper than what it is in; the
compact layout puts nothing anywhere. Empty lists and objects have nothing between their brackets.
-/

namespace OntologySchema.Json

/-- The digits of a number below 16. -/
def hexDigit (n : Nat) : Char := if n < 10 then Char.ofNat (48 + n) else Char.ofNat (87 + n)

/-- A character inside a JSON string: quotes, backslashes and control characters are escaped. -/
def escape (c : Char) : List Char :=
  if c = '"' then ['\\', '"']
  else if c = '\\' then ['\\', '\\']
  else if c = '\n' then ['\\', 'n']
  else if c = '\r' then ['\\', 'r']
  else if c = '\t' then ['\\', 't']
  else if c.toNat = 8 then ['\\', 'b']
  else if c.toNat = 12 then ['\\', 'f']
  else if c.toNat < 32 then
    ['\\', 'u', '0', '0', hexDigit (c.toNat / 16), hexDigit (c.toNat % 16)]
  else [c]

/-- A JSON string. -/
def quoted (s : String) : List Char := '"' :: (s.toList.flatMap escape ++ ['"'])

/-- What stands between the tokens of a text. -/
structure Layout where
  /-- What begins a line at a depth. -/
  line : Nat → List Char
  /-- What follows a colon. -/
  afterColon : List Char

/-- Every item on a line of its own. -/
def indented : Layout := ⟨fun depth => '\n' :: List.replicate (2 * depth) ' ', [' ']⟩

/-- Nothing between the tokens. -/
def compact : Layout := ⟨fun _ => [], []⟩

mutual

/-- A value, at a depth. -/
def render (l : Layout) (depth : Nat) : Json → List Char
  | .null => "null".toList
  | .flag true => "true".toList
  | .flag false => "false".toList
  | .number n => (toString n).toList
  | .decimal written => written.toList
  | .text s => quoted s
  | .list [] => ['[', ']']
  | .list (v :: vs) =>
    '[' :: (l.line (depth + 1) ++ render l (depth + 1) v ++ renderItems l (depth + 1) vs ++
      l.line depth ++ [']'])
  | .object [] => ['\x7b', '\x7d']
  | .object (m :: ms) =>
    '\x7b' :: (l.line (depth + 1) ++ renderMember l (depth + 1) m ++
      renderMembers l (depth + 1) ms ++ l.line depth ++ ['\x7d'])

/-- The items after the first. -/
def renderItems (l : Layout) (depth : Nat) : List Json → List Char
  | [] => []
  | v :: vs => ',' :: (l.line depth ++ render l depth v ++ renderItems l depth vs)

/-- A member. -/
def renderMember (l : Layout) (depth : Nat) : String × Json → List Char
  | (k, v) => quoted k ++ ':' :: (l.afterColon ++ render l depth v)

/-- The members after the first. -/
def renderMembers (l : Layout) (depth : Nat) : List (String × Json) → List Char
  | [] => []
  | m :: ms => ',' :: (l.line depth ++ renderMember l depth m ++ renderMembers l depth ms)

end

/-- The indented text of a value. -/
def pretty (j : Json) : String := String.ofList (render indented 0 j)

/-- The text of a value on one line. -/
def line (j : Json) : String := String.ofList (render compact 0 j)

end OntologySchema.Json
