import OntologySchema.Json.Basic
import OntologySchema.Text.Digit

/-!
# Reading JSON

A text is cut into tokens, and the tokens are put together from left to right with a stack of the lists
and objects that are not closed yet.
-/

namespace OntologySchema.Json

open Text (hexValue?)

/-- The parts of a JSON text. -/
inductive Token where
  | openList | closeList | openObject | closeObject | comma | colon
  | scalar (j : Json)
  deriving Repr

/-- The number that four hexadecimal digits denote. -/
def hex4? (a b c d : Char) : Option Nat := do
  return (((← hexValue? a) * 16 + (← hexValue? b)) * 16 + (← hexValue? c)) * 16 + (← hexValue? d)

/-- The character that an escape of one letter denotes. -/
def unescape? : Char → Option Char
  | '"' => some '"'
  | '\\' => some '\\'
  | '/' => some '/'
  | 'n' => some '\n'
  | 'r' => some '\r'
  | 't' => some '\t'
  | 'b' => some '\x08'
  | 'f' => some '\x0c'
  | _ => none

/-- The rest of a string after its opening quote, and what follows the closing quote. -/
def scanString : List Char → Option (List Char × List Char)
  | [] => none
  | '"' :: rest => some ([], rest)
  | '\\' :: 'u' :: a :: b :: c :: d :: rest =>
    match hex4? a b c d with
    | none => none
    | some n =>
      if 0xD800 ≤ n && n < 0xDC00 then
        match rest with
        | '\\' :: 'u' :: a' :: b' :: c' :: d' :: rest' =>
          match hex4? a' b' c' d' with
          | some m =>
            if 0xDC00 ≤ m && m < 0xE000 then
              (scanString rest').map fun r =>
                (Char.ofNat (0x10000 + (n - 0xD800) * 0x400 + (m - 0xDC00)) :: r.1, r.2)
            else none
          | none => none
        | _ => none
      else if 0xDC00 ≤ n && n < 0xE000 then none
      else (scanString rest).map fun r => (Char.ofNat n :: r.1, r.2)
  | '\\' :: c :: rest =>
    match unescape? c with
    | some c => (scanString rest).map fun r => (c :: r.1, r.2)
    | none => none
  | c :: rest => if c.toNat < 32 then none else (scanString rest).map fun r => (c :: r.1, r.2)

theorem length_scanString {cs s rest : List Char} (h : scanString cs = some (s, rest)) :
    rest.length < cs.length := by
  fun_induction scanString cs generalizing s rest with
  | case1 => simp at h
  | case2 => simp_all
  | case3 => simp at h
  | case4 _ _ _ _ _ _ _ _ _ _ _ _ _ _ _ ih =>
    obtain ⟨r, hr, he⟩ := Option.map_eq_some_iff.1 h
    cases he
    have := ih hr
    simp_all; omega
  | case5 => simp at h
  | case6 => simp at h
  | case7 => simp at h
  | case8 => simp at h
  | case9 _ _ _ _ _ _ _ _ _ ih =>
    obtain ⟨r, hr, he⟩ := Option.map_eq_some_iff.1 h
    cases he
    have := ih hr
    simp_all; omega
  | case10 _ _ _ _ _ ih =>
    obtain ⟨r, hr, he⟩ := Option.map_eq_some_iff.1 h
    cases he
    have := ih hr
    simp_all; omega
  | case11 => simp at h
  | case12 => simp at h
  | case13 _ _ _ _ _ _ ih =>
    obtain ⟨r, hr, he⟩ := Option.map_eq_some_iff.1 h
    cases he
    have := ih hr
    simp_all; omega

/-- Whether a character is a digit. -/
def isDigit (c : Char) : Bool := 48 ≤ c.toNat && c.toNat ≤ 57

/-- What follows the digits at the start of a text, of which there is at least one. -/
def afterDigits? : List Char → Option (List Char)
  | [] => none
  | c :: rest => if isDigit c then some (rest.dropWhile isDigit) else none

/-- What follows the integer at the start of a text. No digit comes after a zero in front. -/
def afterInteger? : List Char → Option (List Char)
  | '0' :: rest => some rest
  | cs => afterDigits? cs

/-- What follows the fraction at the start of a text, if there is one. -/
def afterFraction? : List Char → Option (List Char)
  | '.' :: rest => afterDigits? rest
  | cs => some cs

/-- What follows the exponent at the start of a text, if there is one. -/
def afterExponent? : List Char → Option (List Char)
  | c :: rest =>
    if c = 'e' || c = 'E' then
      match rest with
      | '+' :: rest => afterDigits? rest
      | '-' :: rest => afterDigits? rest
      | rest => afterDigits? rest
    else some (c :: rest)
  | [] => some []

/-- The number that digits denote. -/
def natural (ds : List Char) : Nat := ds.foldl (fun n d => 10 * n + (d.toNat - 48)) 0

/-- The number at the start of a text, and what follows it. -/
def scanNumber (cs : List Char) : Option (Json × List Char) := do
  let (negative, digits) := match cs with
    | '-' :: rest => (true, rest)
    | cs => (false, cs)
  let afterInteger ← afterInteger? digits
  let rest ← afterExponent? (← afterFraction? afterInteger)
  let n : Int := natural (digits.take (digits.length - afterInteger.length))
  if rest.length = afterInteger.length then return (.number (if negative then -n else n), rest)
  else return (.decimal (String.ofList (cs.take (cs.length - rest.length))), rest)

/-- The tokens of a text. -/
def tokens? : List Char → Option (List Token)
  | [] => some []
  | '[' :: rest => (tokens? rest).map (.openList :: ·)
  | ']' :: rest => (tokens? rest).map (.closeList :: ·)
  | '\x7b' :: rest => (tokens? rest).map (.openObject :: ·)
  | '\x7d' :: rest => (tokens? rest).map (.closeObject :: ·)
  | ',' :: rest => (tokens? rest).map (.comma :: ·)
  | ':' :: rest => (tokens? rest).map (.colon :: ·)
  | 'n' :: 'u' :: 'l' :: 'l' :: rest => (tokens? rest).map (.scalar .null :: ·)
  | 't' :: 'r' :: 'u' :: 'e' :: rest => (tokens? rest).map (.scalar (.flag true) :: ·)
  | 'f' :: 'a' :: 'l' :: 's' :: 'e' :: rest => (tokens? rest).map (.scalar (.flag false) :: ·)
  | '"' :: rest =>
    match _h : scanString rest with
    | some (s, rest') => (tokens? rest').map (.scalar (.text (String.ofList s)) :: ·)
    | none => none
  | c :: rest =>
    if c = ' ' || c = '\n' || c = '\r' || c = '\t' then tokens? rest
    else
      match scanNumber (c :: rest) with
      | some (j, rest') =>
        if _h : rest'.length < (c :: rest).length then (tokens? rest').map (.scalar j :: ·) else none
      | none => none
termination_by cs => cs.length
decreasing_by
  all_goals simp only [List.length_cons] at *
  all_goals first
    | omega
    | (have hlt := length_scanString _h; omega)

/-- A list or an object that is not closed yet, its contents in reverse. -/
inductive Frame where
  | inList (items : List Json)
  | inObject (members : List (String × Json)) (key : String)

mutual

/-- Read a value. -/
def readValue (stack : List Frame) : List Token → Option Json
  | .scalar j :: rest => readAfter stack j rest
  | .openList :: .closeList :: rest => readAfter stack (.list []) rest
  | .openList :: rest => readValue (.inList [] :: stack) rest
  | .openObject :: .closeObject :: rest => readAfter stack (.object []) rest
  | .openObject :: .scalar (.text k) :: .colon :: rest =>
    readValue (.inObject [] k :: stack) rest
  | _ => none

/-- Go on after a value. -/
def readAfter (stack : List Frame) (v : Json) : List Token → Option Json
  | [] => match stack with
    | [] => some v
    | _ => none
  | .comma :: .scalar (.text k) :: .colon :: rest => match stack with
    | .inObject members k' :: stack => readValue (.inObject ((k', v) :: members) k :: stack) rest
    | _ => none
  | .comma :: rest => match stack with
    | .inList items :: stack => readValue (.inList (v :: items) :: stack) rest
    | _ => none
  | .closeList :: rest => match stack with
    | .inList items :: stack => readAfter stack (.list (v :: items).reverse) rest
    | _ => none
  | .closeObject :: rest => match stack with
    | .inObject members k :: stack => readAfter stack (.object ((k, v) :: members).reverse) rest
    | _ => none
  | _ => none

end

/-- The value that a text denotes. -/
def parse? (s : String) : Option Json := (tokens? s.toList).bind (readValue [])

end OntologySchema.Json
