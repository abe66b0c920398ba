import Mathlib.Data.List.Basic
import OntologySchema.Text.Blank

/-!
# Lines and comments

A reader of a text takes for its lines what stands between line feeds. A line of a list that a text is
made of may hold line feeds itself, and is then several lines to the reader; `code` says what a reader who
skips comments gets from a list of lines. It does not depend on how the lines are grouped (`code_append`,
`code_flatMap_eq`), a comment that stays on its line adds nothing to it (`code_comments`), and it is all that
is left of the text (`withoutComments_unlines`).
-/

namespace OntologySchema.Text

/-- A line that starts with two slashes, after a tab or not. -/
def isComment (line : List Char) : Bool :=
  ['/', '/'].isPrefixOf line || ['\t', '/', '/'].isPrefixOf line

/-- A text without the lines that are comments. -/
def withoutComments (s : String) : String :=
  String.ofList (['\n'].intercalate ((s.toList.splitOn '\n').filter fun line => !isComment line))

/-- There is no line feed in a text. -/
def OneLine (s : String) : Prop := '\n' ∉ s.toList

instance (s : String) : Decidable (OneLine s) := inferInstanceAs (Decidable ('\n' ∉ s.toList))

/-! ### Lines that are read off a text -/

theorem not_mem_linesFrom : ∀ {cs current : List Char}, '\n' ∉ current →
    ∀ line ∈ linesFrom current cs, '\n' ∉ line
  | [], current, hcurrent, line, hline => by
    unfold linesFrom at hline
    split at hline
    · cases hline
    · rw [List.mem_singleton.1 hline, List.mem_reverse]
      exact hcurrent
  | c :: cs, current, hcurrent, line, hline => by
    unfold linesFrom at hline
    split at hline
    · rcases List.mem_cons.1 hline with rfl | hline
      · split
        · exact fun hmem => hcurrent (List.mem_cons_of_mem _ (List.mem_reverse.1 hmem))
        · exact fun hmem => hcurrent (List.mem_reverse.1 hmem)
      · exact not_mem_linesFrom List.not_mem_nil line hline
    · next hc =>
      refine not_mem_linesFrom ?_ line hline
      exact List.not_mem_cons_of_ne_of_not_mem (Ne.symm hc) hcurrent

theorem oneLine_of_mem_lines {s line : String} (h : line ∈ lines s) : OneLine line := by
  obtain ⟨cs, hcs, rfl⟩ := List.mem_map.1 h
  rw [OneLine, String.toList_ofList]
  exact not_mem_linesFrom List.not_mem_nil cs hcs

/-- Trimming adds nothing. -/
theorem OneLine.trim {s : String} (h : OneLine s) : OneLine (trim s) := by
  have hsub : (Text.trim s).toList.Sublist s.toList := by
    rw [Text.trim, String.toList_ofList, dropEndWhile]
    refine List.Sublist.trans ?_ (List.dropWhile_sublist isBlank)
    simpa using (List.dropWhile_sublist isBlank (l := (s.toList.dropWhile isBlank).reverse)).reverse
  exact fun hmem => h (hsub.subset hmem)

/-! ### Lines that a text is made of -/

/-- What a reader who skips comments gets from a list of lines. -/
def code (ls : List String) : List (List Char) :=
  ls.flatMap fun l => (l.toList.splitOn '\n').filter fun line => !isComment line

theorem code_append (ls ls' : List String) : code (ls ++ ls') = code ls ++ code ls' :=
  List.flatMap_append

/-- Lists of lines mean the same if they do member by member. -/
theorem code_flatMap_eq {α β : Type} {f : α → List String} {g : β → List String} {as : List α}
    {bs : List β} (h : List.Forall₂ (fun a b => code (f a) = code (g b)) as bs) :
    code (as.flatMap f) = code (bs.flatMap g) := by
  induction h with
  | nil => rfl
  | cons hab _ ih => rw [List.flatMap_cons, List.flatMap_cons, code_append, code_append, hab, ih]

/-- Comments that stay on their lines are skipped. -/
theorem code_comments {marker : String} (hmarker : OneLine marker)
    (hcomment : ∀ line, isComment (marker.toList ++ line) = true) {comments : List String}
    (h : ∀ c ∈ comments, OneLine c) : code (comments.map (marker ++ ·)) = [] := by
  rw [code, List.flatMap_eq_nil_iff]
  intro l hl
  obtain ⟨c, hc, rfl⟩ := List.mem_map.1 hl
  have hline : '\n' ∉ (marker ++ c).toList := by
    rw [String.toList_append, List.mem_append]
    exact not_or_intro hmarker (h c hc)
  rw [List.splitOn_eq_singleton hline, List.filter_cons_of_neg, List.filter_nil]
  rw [String.toList_append, hcomment]
  decide

/-- The lines between the line feeds of a text are those in the lines that it is made of. -/
theorem splitOn_unlines (ls : List String) :
    (unlines ls).toList.splitOn '\n' = ls.flatMap (fun l => l.toList.splitOn '\n') ++ [[]] := by
  induction ls with
  | nil => rfl
  | cons l ls ih =>
    have hcons : (unlines (l :: ls)).toList = l.toList ++ '\n' :: (unlines ls).toList := by
      rw [unlines, List.map_cons, String.join_cons, String.toList_append, String.toList_append,
        List.append_assoc]
      rfl
    rw [hcons, List.splitOn_append_cons_self, ih, List.flatMap_cons, List.append_assoc]

/-- What is left of a text without comments is what a reader gets who skips them. -/
theorem withoutComments_unlines (ls : List String) :
    withoutComments (unlines ls) = String.ofList (['\n'].intercalate (code ls ++ [[]])) := by
  rw [withoutComments, splitOn_unlines, List.filter_append, List.filter_flatMap]
  rfl

end OntologySchema.Text
