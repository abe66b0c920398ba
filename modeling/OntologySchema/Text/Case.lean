import OntologySchema.Text.Case.Mapping
import OntologySchema.Text.Case.Context

/-!
# Lowercase

Full Unicode lowercasing. Each character is mapped on its own, with one exception: a capital sigma at
the end of a word becomes the final sigma. It stands at the end of a word if, characters that do not
end a word left aside, a letter with case comes right before it and none comes right after it.
-/

namespace OntologySchema.Text

/-- Capital letters of ASCII. -/
def isUpper (c : Char) : Bool := 'A' ≤ c && c ≤ 'Z'

/-- Small letters of ASCII. -/
def isLower (c : Char) : Bool := 'a' ≤ c && c ≤ 'z'

/-- Digits of ASCII. -/
def isDigit (c : Char) : Bool := '0' ≤ c && c ≤ '9'

/-- The lowercase of a character that stands alone. -/
def lowerChar (c : Char) : List Char :=
  if c = '\u0130' then ['i', '\u0307'] else [Char.ofNat (lowerByRuns c.toNat caseRuns)]

/-- Whether the first character that can end a word is a letter with case. -/
def leadsWithCased : List Char → Bool
  | [] => false
  | c :: rest => if isCaseIgnorable c then leadsWithCased rest else isCased c

/-- Lowercase from a point on, where `inWord` says whether a letter with case comes right before. -/
def lowerFrom (inWord : Bool) : List Char → List Char
  | [] => []
  | c :: rest =>
    (if c = 'Σ' then [if inWord && !leadsWithCased rest then 'ς' else 'σ'] else lowerChar c) ++
      lowerFrom (if isCaseIgnorable c then inWord else isCased c) rest

/-- The lowercase of a list of characters. -/
def lower (cs : List Char) : List Char := lowerFrom false cs

end OntologySchema.Text
