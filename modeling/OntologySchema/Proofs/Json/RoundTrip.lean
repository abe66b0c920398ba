import Mathlib.Tactic.SplitIfs
import OntologySchema.Json.Standard
import OntologySchema.Proofs.Json.Library

/-!
# Reading what was printed

A printed value is read back as it was, whatever the layout puts between its tokens, as long as this is blank
(`parse?_render`). Two steps lead there. The tokens of the text are those of the value (`tokens?_render`):
every character of a string is escaped in a way that is undone where the string is scanned
(`scanString_escape`). And the value is put together from its tokens, whatever is open around it
(`readValue_tokensOf`).

Values without numbers are considered, of which there are none in an export. So the library that is used does
what is relied on, and more: texts may be nested as deep as they please.
-/

namespace OntologySchema.Json

/-! ### Strings -/

/-- Two hexadecimal digits are enough for a control character. -/
theorem hex4?_hexDigit : ∀ n < 32, hex4? '0' '0' (hexDigit (n / 16)) (hexDigit (n % 16)) = some n := by
  decide

/-- What stands for a character in a string is scanned as this character. -/
theorem scanString_escape (c : Char) (rest : List Char) :
    scanString (escape c ++ rest) = (scanString rest).map fun r => (c :: r.1, r.2) := by
  unfold escape
  split_ifs with hquote hbackslash hnewline hreturn htab hback hfeed hcontrol
  · simp [scanString, unescape?, hquote]
  · simp [scanString, unescape?, hbackslash]
  · simp [scanString, unescape?, hnewline]
  · simp [scanString, unescape?, hreturn]
  · simp [scanString, unescape?, htab]
  · obtain rfl : c = '\x08' := by rw [← Char.ofNat_toNat c, hback]
    simp [scanString, unescape?]
  · obtain rfl : c = '\x0c' := by rw [← Char.ofNat_toNat c, hfeed]
    simp [scanString, unescape?]
  · -- a number below 32 is no surrogate
    have hhex := hex4?_hexDigit c.toNat hcontrol
    simp only [List.cons_append, List.nil_append, scanString, hhex]
    rw [if_neg (by simp; omega), if_neg (by simp; omega), Char.ofNat_toNat]
  · rw [List.singleton_append, scanString, if_neg hcontrol]
    all_goals simp_all

/-- A string is scanned up to its closing quote. -/
theorem scanString_quoted (s rest : List Char) :
    scanString (s.flatMap escape ++ '"' :: rest) = some (s, rest) := by
  induction s with
  | nil => simp [scanString]
  | cons c cs ih =>
    rw [List.flatMap_cons, List.append_assoc, scanString_escape, ih]
    rfl

/-! ### Tokens -/

/-- A value in which there is no number. -/
inductive Numberless : Json → Prop
  | null : Numberless .null
  | flag (b : Bool) : Numberless (.flag b)
  | text (s : String) : Numberless (.text s)
  | list {items : List Json} (h : ∀ v ∈ items, Numberless v) : Numberless (.list items)
  | object {members : List (String × Json)} (h : ∀ m ∈ members, Numberless m.2) :
      Numberless (.object members)

mutual

/-- The tokens of a value. -/
def tokensOf : Json → List Token
  | .list [] => [.openList, .closeList]
  | .list (v :: vs) => .openList :: (tokensOf v ++ tokensOfItems vs ++ [.closeList])
  | .object [] => [.openObject, .closeObject]
  | .object (m :: ms) =>
    .openObject :: (tokensOfMember m ++ tokensOfMembers ms ++ [.closeObject])
  | j => [.scalar j]

/-- The tokens of the items after the first. -/
def tokensOfItems : List Json → List Token
  | [] => []
  | v :: vs => .comma :: (tokensOf v ++ tokensOfItems vs)

/-- The tokens of a member. -/
def tokensOfMember : String × Json → List Token
  | (k, v) => .scalar (.text k) :: .colon :: tokensOf v

/-- The tokens of the members after the first. -/
def tokensOfMembers : List (String × Json) → List Token
  | [] => []
  | m :: ms => .comma :: (tokensOfMember m ++ tokensOfMembers ms)

end

theorem tokensOfMember_eq (m : String × Json) :
    tokensOfMember m = .scalar (.text m.1) :: .colon :: tokensOf m.2 := by
  cases m
  rfl

/-- What separates tokens and is none. -/
def isSpace (c : Char) : Bool := c = ' ' || c = '\n' || c = '\r' || c = '\t'

/-- A layout that puts only space between tokens. -/
structure Layout.Blank (l : Layout) : Prop where
  line : ∀ depth, ∀ c ∈ l.line depth, isSpace c = true
  afterColon : ∀ c ∈ l.afterColon, isSpace c = true

theorem blank_indented : indented.Blank where
  line := fun depth c hc => by
    rcases List.mem_cons.1 hc with rfl | hc
    · rfl
    · rw [List.eq_of_mem_replicate hc]
      rfl
  afterColon := by simp [indented, isSpace]

theorem tokens?_space {c : Char} (hc : isSpace c = true) (rest : List Char) :
    tokens? (c :: rest) = tokens? rest := by
  simp only [isSpace, Bool.or_eq_true, decide_eq_true_eq] at hc
  obtain ((rfl | rfl) | rfl) | rfl := hc <;> simp [tokens?]

/-- Space has no tokens. -/
theorem tokens?_spaces {cs : List Char} (h : ∀ c ∈ cs, isSpace c = true) (rest : List Char) :
    tokens? (cs ++ rest) = tokens? rest := by
  induction cs with
  | nil => rfl
  | cons c cs ih =>
    obtain ⟨hc, hcs⟩ := List.forall_mem_cons.1 h
    rw [List.cons_append, tokens?_space hc, ih hcs]

theorem tokens?_quoted (s : String) (rest : List Char) :
    tokens? (quoted s ++ rest) = (tokens? rest).map (.scalar (.text s) :: ·) := by
  have hscan : scanString (s.toList.flatMap escape ++ ['"'] ++ rest) = some (s.toList, rest) := by
    rw [List.append_assoc]
    exact scanString_quoted s.toList rest
  rw [quoted, List.cons_append, tokens?]
  split
  · next s' rest' hs =>
    cases hscan.symm.trans hs
    rw [String.ofList_toList]
  · next hs => cases hscan.symm.trans hs

/-- The text of a value starts with the tokens of the value. -/
def Tokenizes (l : Layout) (j : Json) : Prop :=
  ∀ depth rest, tokens? (render l depth j ++ rest) = (tokens? rest).map (tokensOf j ++ ·)

variable {l : Layout}

theorem tokens?_member (hl : l.Blank) {m : String × Json} (h : Tokenizes l m.2) (depth : Nat)
    (rest : List Char) :
    tokens? (renderMember l depth m ++ rest) = (tokens? rest).map (tokensOfMember m ++ ·) := by
  obtain ⟨k, v⟩ := m
  have hcolon : tokens? (':' :: (l.afterColon ++ render l depth v ++ rest)) =
      (tokens? rest).map (.colon :: tokensOf v ++ ·) := by
    rw [tokens?, List.append_assoc, tokens?_spaces hl.afterColon, h depth rest, Option.map_map]
    rfl
  rw [renderMember, List.append_assoc, tokens?_quoted, List.cons_append, hcolon, Option.map_map]
  rfl

theorem tokens?_items (hl : l.Blank) (depth : Nat) {vs : List Json} (h : ∀ v ∈ vs, Tokenizes l v)
    (rest : List Char) :
    tokens? (renderItems l depth vs ++ rest) = (tokens? rest).map (tokensOfItems vs ++ ·) := by
  induction vs with
  | nil => simp [renderItems, tokensOfItems]
  | cons v vs ih =>
    obtain ⟨hv, hvs⟩ := List.forall_mem_cons.1 h
    rw [renderItems, List.cons_append, tokens?, List.append_assoc, List.append_assoc,
      tokens?_spaces (hl.line depth), hv, ih hvs, Option.map_map, Option.map_map]
    simp [tokensOfItems, Function.comp_def]

theorem tokens?_members (hl : l.Blank) (depth : Nat) {ms : List (String × Json)}
    (h : ∀ m ∈ ms, Tokenizes l m.2) (rest : List Char) :
    tokens? (renderMembers l depth ms ++ rest) = (tokens? rest).map (tokensOfMembers ms ++ ·) := by
  induction ms with
  | nil => simp [renderMembers, tokensOfMembers]
  | cons m ms ih =>
    obtain ⟨hm, hms⟩ := List.forall_mem_cons.1 h
    rw [renderMembers, List.cons_append, tokens?, List.append_assoc, List.append_assoc,
      tokens?_spaces (hl.line depth), tokens?_member hl hm, ih hms, Option.map_map, Option.map_map]
    simp [tokensOfMembers, Function.comp_def]

/-- A printed value has its tokens. -/
theorem tokens?_render (hl : l.Blank) {j : Json} (hj : j.Numberless) : Tokenizes l j := by
  induction hj with
  | null => exact fun _ _ => by simp [render, tokens?, tokensOf]
  | flag b => exact fun _ _ => by cases b <;> simp [render, tokens?, tokensOf]
  | text s => exact fun _ rest => by simp [render, tokens?_quoted, tokensOf]
  | @list items _ ih =>
    intro depth rest
    cases items with
    | nil => simp [render, tokens?, tokensOf, Function.comp_def]
    | cons v vs =>
      obtain ⟨hv, hvs⟩ := List.forall_mem_cons.1 ih
      rw [render, List.cons_append, tokens?]
      simp only [List.append_assoc]
      rw [tokens?_spaces (hl.line _), hv, tokens?_items hl _ hvs, tokens?_spaces (hl.line _),
        List.singleton_append, tokens?]
      simp [tokensOf, Function.comp_def]
  | @object members _ ih =>
    intro depth rest
    cases members with
    | nil => simp [render, tokens?, tokensOf, Function.comp_def]
    | cons m ms =>
      obtain ⟨hm, hms⟩ := List.forall_mem_cons.1 ih
      rw [render, List.cons_append, tokens?]
      simp only [List.append_assoc]
      rw [tokens?_spaces (hl.line _), tokens?_member hl hm, tokens?_members hl _ hms,
        tokens?_spaces (hl.line _), List.singleton_append, tokens?]
      simp [tokensOf, Function.comp_def]

/-! ### Values -/

/-- The value is put together from its tokens, and what is open around it goes on with it. -/
def ReadBack (j : Json) : Prop :=
  ∀ stack rest, readValue stack (tokensOf j ++ rest) = readAfter stack j rest

/-- The tokens of a value do not start like the end of a list or an object, nor with a key. -/
theorem tokensOf_append_cases (j : Json) {rest : List Token}
    (hrest : ∀ ts, rest ≠ .colon :: ts) :
    (∀ ts, tokensOf j ++ rest ≠ .closeList :: ts) ∧
      ∀ k ts, tokensOf j ++ rest ≠ .scalar (.text k) :: .colon :: ts := by
  unfold tokensOf
  split
  · simp
  · simp
  · simp
  · simp
  · -- a text is a key only in front of a colon
    refine ⟨by simp, fun k ts heq => ?_⟩
    simp only [List.singleton_append, List.cons.injEq] at heq
    exact hrest ts heq.2

theorem readValue_openList (j : Json) (stack : List Frame) {rest : List Token}
    (hrest : ∀ ts, rest ≠ .colon :: ts) :
    readValue stack (.openList :: (tokensOf j ++ rest)) =
      readValue (.inList [] :: stack) (tokensOf j ++ rest) := by
  obtain ⟨hclose, -⟩ := tokensOf_append_cases j hrest
  rw [readValue]
  exact hclose

theorem readAfter_comma (j v : Json) (items : List Json) (stack : List Frame) {rest : List Token}
    (hrest : ∀ ts, rest ≠ .colon :: ts) :
    readAfter (.inList items :: stack) v (.comma :: (tokensOf j ++ rest)) =
      readValue (.inList (v :: items) :: stack) (tokensOf j ++ rest) := by
  obtain ⟨-, hkey⟩ := tokensOf_append_cases j hrest
  rw [readAfter]
  exact hkey

theorem tokensOfItems_append_ne (vs : List Json) (rest ts : List Token) :
    tokensOfItems vs ++ .closeList :: rest ≠ .colon :: ts := by
  cases vs <;> simp [tokensOfItems]

/-- After an item of a list its other items are read, and the list is closed. -/
theorem readAfter_items {vs : List Json} (h : ∀ v ∈ vs, ReadBack v) (stack : List Frame)
    (rest : List Token) (v : Json) (items : List Json) :
    readAfter (.inList items :: stack) v (tokensOfItems vs ++ .closeList :: rest) =
      readAfter stack (.list ((v :: items).reverse ++ vs)) rest := by
  induction vs generalizing v items with
  | nil => simp [tokensOfItems, readAfter]
  | cons w vs ih =>
    obtain ⟨hw, hvs⟩ := List.forall_mem_cons.1 h
    rw [tokensOfItems, List.cons_append, List.append_assoc,
      readAfter_comma w v items stack (tokensOfItems_append_ne vs rest), hw, ih hvs]
    simp

/-- After a member of an object its other members are read, and the object is closed. -/
theorem readAfter_members {ms : List (String × Json)} (h : ∀ m ∈ ms, ReadBack m.2)
    (stack : List Frame) (rest : List Token) (k : String) (v : Json)
    (members : List (String × Json)) :
    readAfter (.inObject members k :: stack) v (tokensOfMembers ms ++ .closeObject :: rest) =
      readAfter stack (.object (((k, v) :: members).reverse ++ ms)) rest := by
  induction ms generalizing k v members with
  | nil => simp [tokensOfMembers, readAfter]
  | cons m ms ih =>
    obtain ⟨hm, hms⟩ := List.forall_mem_cons.1 h
    simp only [tokensOfMembers, tokensOfMember_eq, List.cons_append, List.append_assoc]
    rw [readAfter, hm, ih hms]
    simp

/-- A value is read back from its tokens. -/
theorem readValue_tokensOf {j : Json} (hj : j.Numberless) : ReadBack j := by
  induction hj with
  | null => exact fun _ _ => by simp [tokensOf, readValue]
  | flag b => exact fun _ _ => by simp [tokensOf, readValue]
  | text s => exact fun _ _ => by simp [tokensOf, readValue]
  | @list items _ ih =>
    intro stack rest
    cases items with
    | nil => simp [tokensOf, readValue]
    | cons v vs =>
      obtain ⟨hv, hvs⟩ := List.forall_mem_cons.1 ih
      simp only [tokensOf, List.cons_append, List.append_assoc, List.nil_append]
      rw [readValue_openList v stack (tokensOfItems_append_ne vs rest), hv, readAfter_items hvs]
      rfl
  | @object members _ ih =>
    intro stack rest
    cases members with
    | nil => simp [tokensOf, readValue]
    | cons m ms =>
      obtain ⟨hm, hms⟩ := List.forall_mem_cons.1 ih
      simp only [tokensOf, tokensOfMember_eq, List.cons_append, List.append_assoc, List.nil_append]
      rw [readValue, hm, readAfter_members hms]
      rfl

/-- What is printed is read back, also if space follows it. -/
theorem parse?_render (hl : l.Blank) {j : Json} (hj : j.Numberless) (depth : Nat) {cs : List Char}
    (hcs : ∀ c ∈ cs, isSpace c = true) : parse? (.ofList (render l depth j ++ cs)) = some j := by
  have hspace : tokens? cs = some [] := by
    have hend := tokens?_spaces hcs []
    rwa [List.append_nil, tokens?] at hend
  rw [parse?, String.toList_ofList, tokens?_render hl hj, hspace, Option.map_some, Option.bind_some,
    readValue_tokensOf hj, readAfter]

/-! ### What is relied on -/

/-- There is no number in what the library makes. -/
theorem Built.numberless {n : Nat} {j : Json} (h : Built n j) : j.Numberless := by
  induction h with
  | null n => exact .null
  | text n s => exact .text s
  | list _ ih => exact .list ih
  | record _ _ ih => exact .object ih
  | table _ _ ih => exact .object ih

theorem parse?_pretty {j : Json} (hj : j.Numberless) {cs : List Char}
    (hcs : ∀ c ∈ cs, isSpace c = true) : parse? (j.pretty ++ .ofList cs) = some j := by
  rw [pretty, ← String.ofList_append]
  exact parse?_render blank_indented hj 0 hcs

instance : LawfulLibrary Json where
  isNull_null := rfl
  isNull_text := fun _ => rfl
  text?_text := fun _ => rfl
  items?_list := fun _ => rfl
  fields?_record := fun _ _ _ => rfl
  entries?_table := fun _ => rfl
  parse?_print? := fun {_ j} h _ => by
    refine ⟨j.pretty, rfl, ?_, ?_⟩
    · have hparse := parse?_pretty h.numberless (List.forall_mem_nil _)
      rwa [String.ofList_nil, String.append_empty] at hparse
    · exact parse?_pretty h.numberless (List.forall_mem_singleton.2 rfl)

end OntologySchema.Json
