/-!
# Blanks, trimming and lines

What counts as blank is the Unicode property White_Space. Trimming removes blanks at the ends of a
text. The lines of a text are its parts between line feeds, without a final empty part; a carriage
return before a line feed belongs to the line end.
-/

namespace OntologySchema.Text

/-- The Unicode property White_Space. -/
def isBlank (c : Char) : Bool :=
  let n := c.toNat
  (9 ≤ n && n ≤ 13) || n = 0x20 || n = 0x85 || n = 0xA0 || n = 0x1680 ||
    (0x2000 ≤ n && n ≤ 0x200A) || n = 0x2028 || n = 0x2029 || n = 0x202F || n = 0x205F ||
    n = 0x3000

/-- The longest end of a list all of whose members satisfy `p`, removed. -/
def dropEndWhile (p : Char → Bool) (cs : List Char) : List Char :=
  (cs.reverse.dropWhile p).reverse

/-- A text without blanks at its end. -/
def trimEnd (s : String) : String := String.ofList (dropEndWhile isBlank s.toList)

/-- A text without blanks at either end. -/
def trim (s : String) : String :=
  String.ofList (dropEndWhile isBlank (s.toList.dropWhile isBlank))

/-- The parts of a list before the first `sep` and after it. -/
def splitFirst? (sep : Char) : List Char → Option (List Char × List Char)
  | [] => none
  | c :: cs => if c = sep then some ([], cs) else (splitFirst? sep cs).map fun p => (c :: p.1, p.2)

/-- The lines of a list of characters, each given reversed up to the current one. -/
def linesFrom (current : List Char) : List Char → List (List Char)
  | [] => if current.isEmpty then [] else [current.reverse]
  | c :: cs =>
    if c = '\n' then
      (match current with
        | '\r' :: front => front.reverse
        | line => line.reverse) :: linesFrom [] cs
    else linesFrom (c :: current) cs

/-- The lines of a text. -/
def lines (s : String) : List String := (linesFrom [] s.toList).map String.ofList

/-- The text of a list of lines, each ended by a line feed. -/
def unlines (ls : List String) : String := String.join (ls.map (· ++ "\n"))

theorem unlines_append (ls ls' : List String) : unlines (ls ++ ls') = unlines ls ++ unlines ls' := by
  rw [unlines, List.map_append, String.join_append]
  rfl

/-- A text that starts with `start`, without it. -/
def afterPrefix? (start s : String) : Option String :=
  if start.toList.isPrefixOf s.toList then some (String.ofList (s.toList.drop start.toList.length))
  else none

theorem afterPrefix?_append (start suffix : String) :
    afterPrefix? start (start ++ suffix) = some suffix := by
  simp [afterPrefix?]

theorem afterPrefix?_eq_some_iff {start s suffix : String} :
    afterPrefix? start s = some suffix ↔ s = start ++ suffix := by
  constructor
  · intro h
    unfold afterPrefix? at h
    split at h
    · next hpre =>
      cases h
      rw [← String.toList_inj, String.toList_append, String.toList_ofList]
      exact (List.prefix_iff_eq_append.1 (List.isPrefixOf_iff_prefix.1 hpre)).symm
    · cases h
  · rintro rfl
    exact afterPrefix?_append start suffix

end OntologySchema.Text
