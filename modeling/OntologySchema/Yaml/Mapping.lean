import OntologySchema.Table.Basic
import OntologySchema.Yaml.Token

/-!
# YAML mappings

A text that is one mapping from scalars to scalars, in block form (a line or more for each entry) or in flow
form (between braces). The text may also hold nothing; then there are no entries. Further documents are
refused.

An alias stands for the scalar that an anchor names. Anchors are numbered as they come, a number being how
many different names there were before; an alias means the number that its name has where the alias
stands, and of the scalars with that number the last.
-/

namespace OntologySchema.Yaml

/-! ### Nodes -/

/-- A key or a value as it is written. -/
inductive Node where
  | scalar (anchor? : Option String) (s : Scalar)
  | alias (name : String)
  deriving DecidableEq, Repr

/-- The node of a place where nothing is written. -/
def Node.empty : Node := .scalar none .empty

/-- The anchor and the tag that stand before a node, in either order. -/
structure Properties where
  anchor? : Option String := none
  tag? : Option Tag := none
  deriving DecidableEq, Repr

/-- The properties at the start of some tokens, and what follows them. -/
def properties? (handles : Handles) : List Token → Option (Properties × List Token)
  | .anchor a :: .tag t :: ts => (t.tag? handles).map fun t => (⟨some a, some t⟩, ts)
  | .tag t :: .anchor a :: ts => (t.tag? handles).map fun t => (⟨some a, some t⟩, ts)
  | .anchor a :: ts => some (⟨some a, none⟩, ts)
  | .tag t :: ts => (t.tag? handles).map fun t => (⟨none, some t⟩, ts)
  | ts => some ({}, ts)

theorem length_of_properties? {handles : Handles} {ts rest : List Token} {p : Properties}
    (h : properties? handles ts = some (p, rest)) : rest.length ≤ ts.length := by
  unfold properties? at h
  split at h <;> simp only [Option.map_eq_some_iff, Option.some.injEq, Prod.mk.injEq] at h <;>
    grind

/-- The node at the start of some tokens, and what follows it. -/
def node? (handles : Handles) : List Token → Option (Node × List Token)
  | .alias name :: ts => some (.alias name, ts)
  | ts => do
    match ← properties? handles ts with
    | (p, .scalar s :: rest) =>
      return (.scalar p.anchor? { s with tag? := p.tag? }, rest)
    | (p, rest) => return (.scalar p.anchor? { Scalar.empty with tag? := p.tag? }, rest)

theorem length_of_node? {handles : Handles} {ts rest : List Token} {n : Node}
    (h : node? handles ts = some (n, rest)) : rest.length ≤ ts.length := by
  unfold node? at h
  split at h
  · cases h; simp
  · cases hp : properties? handles ts with
    | none => simp [hp] at h
    | some r =>
      obtain ⟨p, after⟩ := r
      have hl := length_of_properties? hp
      rw [hp] at h
      simp only [Option.bind_eq_bind, Option.bind_some] at h
      split at h
      · next he => cases he; cases h; simp at hl; omega
      · next he => cases he; cases h; exact hl

/-- Whether a node can start with some tokens. -/
def startsNode : List Token → Bool
  | .anchor _ :: _ | .alias _ :: _ | .tag _ :: _ | .scalar _ :: _ => true
  | _ => false

/-- The value at the start of some tokens, if there is one, and what follows it. -/
def value? (handles : Handles) : List Token → Option (Node × List Token)
  | .value :: ts => node? handles ts
  | ts => some (.empty, ts)

theorem length_of_value? {handles : Handles} {ts rest : List Token} {n : Node}
    (h : value? handles ts = some (n, rest)) : rest.length ≤ ts.length := by
  unfold value? at h
  split at h
  · exact Nat.le_succ_of_le (length_of_node? h)
  · cases h; exact Nat.le_refl _

/-- The key and the value of an entry, and what follows them. -/
def pair? (handles : Handles) (ts : List Token) : Option ((Node × Node) × List Token) := do
  let (key, ts) ← node? handles ts
  let (value, ts) ← value? handles ts
  return ((key, value), ts)

theorem length_of_pair? {handles : Handles} {ts rest : List Token} {e : Node × Node}
    (h : pair? handles ts = some (e, rest)) : rest.length ≤ ts.length := by
  unfold pair? at h
  cases hk : node? handles ts with
  | none => simp [hk] at h
  | some k =>
    cases hv : value? handles k.2 with
    | none => simp [hk, hv] at h
    | some v =>
      simp [hk, hv] at h
      exact h.2 ▸ Nat.le_trans (length_of_value? hv) (length_of_node? hk)

/-! ### Mappings -/

/-- The entries of a block mapping, and what follows it. -/
def blockEntries? (handles : Handles) : List Token → Option (List (Node × Node) × List Token)
  | .blockEnd :: ts => some ([], ts)
  | .key :: ts =>
    match _h : pair? handles ts with
    | some (e, rest) => (blockEntries? handles rest).map fun r => (e :: r.1, r.2)
    | none => none
  | _ => none
termination_by ts => ts.length
decreasing_by exact Nat.lt_succ_of_le (length_of_pair? _h)

/-- An entry of a flow mapping, and what follows it. A node without a sign that it is a key has no value. -/
def flowPair? (handles : Handles) : List Token → Option ((Node × Node) × List Token)
  | .key :: ts => pair? handles ts
  | ts =>
    if startsNode ts then (node? handles ts).map fun r => ((r.1, .empty), r.2) else none

theorem length_of_flowPair? {handles : Handles} {ts rest : List Token} {e : Node × Node}
    (h : flowPair? handles ts = some (e, rest)) : rest.length ≤ ts.length := by
  unfold flowPair? at h
  split at h
  · exact Nat.le_succ_of_le (length_of_pair? h)
  · split at h
    · obtain ⟨r, hr, he⟩ := Option.map_eq_some_iff.1 h
      cases he
      exact length_of_node? hr
    · cases h

/-- The entries of a flow mapping, and what follows it. -/
def flowEntries? (handles : Handles) (ts : List Token) :
    Option (List (Node × Node) × List Token) :=
  match ts with
  | .flowEnd :: ts => some ([], ts)
  | ts =>
    match _h : flowPair? handles ts with
    | some (e, .comma :: rest) => (flowEntries? handles rest).map fun r => (e :: r.1, r.2)
    | some (e, .flowEnd :: rest) => some ([e], rest)
    | _ => none
termination_by ts.length
decreasing_by
  have hl := length_of_flowPair? _h
  simp at hl
  omega

/-! ### Aliases -/

/-- The anchors that were met. -/
structure Anchors where
  /-- The numbers that names have. -/
  numbers : Table Nat := .empty
  /-- What has which number, the latest first; a mapping is no scalar. -/
  named : List (Nat × Option Scalar) := []

namespace Anchors

/-- An anchor names something. -/
def add (a : Anchors) (name : String) (s? : Option Scalar) : Anchors :=
  ⟨a.numbers.insert name a.numbers.size, (a.numbers.size, s?) :: a.named⟩

/-- The scalar with a number. -/
def scalar? (a : Anchors) (n : Nat) : Option Scalar := (a.named.lookup n).join

end Anchors

/-- A scalar, or the number of one. -/
inductive Place where
  | here (s : Scalar)
  | there (n : Nat)
  deriving DecidableEq, Repr

/-- The scalar of a place. -/
def Place.scalar? (a : Anchors) : Place → Option Scalar
  | .here s => some s
  | .there n => a.scalar? n

/-- Meet a node: its anchor is noted, and an alias takes its number. -/
def Node.place : Node → StateT Anchors Option Place
  | .scalar none s => return .here s
  | .scalar (some name) s => do
    modify (·.add name (some s))
    return .here s
  | .alias name => do
    match (← get).numbers.find? name with
    | some n => return .there n
    | none => failure

/-- The texts of keys and the scalars of values, given the anchors before them. -/
def resolve? (a : Anchors) (entries : List (Node × Node)) : Option (List (String × Scalar)) := do
  let (places, a) ← (entries.mapM fun e => return (← e.1.place, ← e.2.place) :
    StateT Anchors Option (List (Place × Place))).run a
  places.mapM fun p => return ((← p.1.scalar? a).text, ← p.2.scalar? a)

/-! ### Documents -/

/-- The entries of the mapping at the start of some tokens, with its anchor, and what follows it. An empty
plain scalar is a mapping without entries. -/
def root? (handles : Handles) (ts : List Token) :
    Option (Option String × List (Node × Node) × List Token) := do
  match ← properties? handles ts with
  | (p, .flowStart :: rest) => return (p.anchor?, ← flowEntries? handles rest)
  | (p, .blockStart :: rest) => return (p.anchor?, ← blockEntries? handles rest)
  | _ =>
    match ← node? handles ts with
    | (.scalar anchor? s, rest) =>
      if s.text = "" && s.style = .plain then return (anchor?, [], rest) else none
    | _ => none

/-- The entries of a document after its start. Nothing may follow but marks of its end. -/
def content? (handles : Handles) (ts : List Token) : Option (List (String × Scalar)) := do
  let (anchor?, entries, rest) ← root? handles ts
  if rest.all (· = .documentEnd) then
    resolve? (anchor?.elim {} fun name => Anchors.add {} name none) entries
  else none

/-- The directives at the start of some tokens, and what follows them. -/
def directives : List Token → List Directive × List Token
  | .directive d :: ts => let r := directives ts; (d :: r.1, r.2)
  | ts => ([], ts)

/-- The entries of a document. Directives ask for a mark of its start, and so does a mark of its end where
nothing else is. -/
def document? (ts : List Token) : Option (List (String × Scalar)) :=
  match directives ts with
  | (ds, .documentStart :: ts) => (handles? ds).bind (content? · ts)
  | ([], []) => some []
  | ([], .documentEnd :: _) => none
  | ([], ts) => content? standardHandles ts
  | _ => none

/-- The entries of the mapping that a text is, in the order of the text. -/
def mapping? (text : String) : Option (List (String × Scalar)) := (tokens? text).bind document?

end OntologySchema.Yaml
