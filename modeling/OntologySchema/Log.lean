import OntologySchema.Text.Printable

/-!
# Log events

Reading an ontology never fails on a part it cannot use: it leaves the part out and says so. What is
said is data here, an ordered list of events beside the value that was computed, so that "nothing is
lost silently" is a statement about a list.

`Logged α` is a value with its events; `Attempt ε α` may also fail, and keeps the events that came
before the failure.
-/

namespace OntologySchema

namespace Log

/-- Severities, most severe first. -/
inductive Level where
  | error | warn | info | debug | trace
  deriving DecidableEq, Repr

/-- Position in the order of severities; a smaller rank is more severe. -/
def Level.rank : Level → Nat
  | .error => 0
  | .warn => 1
  | .info => 2
  | .debug => 3
  | .trace => 4

/-- A threshold admits the events that are at least as severe as itself. -/
def Level.admits (threshold level : Level) : Bool := level.rank ≤ threshold.rank

/-- The value of a named field of an event. -/
inductive Value where
  | text (s : String)
  | number (n : Nat)
  | flag (b : Bool)
  deriving DecidableEq, Repr

/-- One event: how severe, what happened, and the named things it happened to. -/
structure Event where
  level : Level
  message : String
  fields : List (String × Value) := []
  deriving DecidableEq, Repr

/-- A character of a quoted text: quotes, backslashes and common controls are escaped by a letter, and
what is not printable by its number. -/
def escapedChar (c : Char) : List Char :=
  if c = '"' then ['\\', '"']
  else if c = '\\' then ['\\', '\\']
  else if c = '\n' then ['\\', 'n']
  else if c = '\r' then ['\\', 'r']
  else if c = '\t' then ['\\', 't']
  else if c.toNat = 0 then ['\\', '0']
  else if Text.isPrintable c then [c]
  else ['\\', 'u', '\x7b'] ++ Nat.toDigits 16 c.toNat ++ ['\x7d']

/-- A text between double quotes, with escapes. -/
def quoted (s : String) : String :=
  String.ofList ('"' :: s.toList.flatMap escapedChar ++ ['"'])

/-- An optional text as a field shows it: `None`, or `Some` of the quoted text. -/
def Value.ofOption : Option String → Value
  | none => .text "None"
  | some s => .text ("Some(" ++ quoted s ++ ")")

end Log

/-- A value together with the events that its computation gave rise to, in order. -/
structure Logged (α : Type) where
  value : α
  events : List Log.Event

namespace Logged

variable {α β : Type}

/-- Results are sequenced by running one after the other and joining their events. -/
def bind (x : Logged α) (f : α → Logged β) : Logged β :=
  ⟨(f x.value).value, x.events ++ (f x.value).events⟩

instance : Monad Logged where
  pure a := ⟨a, []⟩
  bind := bind

@[simp] theorem value_pure (a : α) : (pure a : Logged α).value = a := rfl

@[simp] theorem events_pure (a : α) : (pure a : Logged α).events = [] := rfl

@[simp] theorem value_bind (x : Logged α) (f : α → Logged β) :
    (x >>= f).value = (f x.value).value := rfl

@[simp] theorem events_bind (x : Logged α) (f : α → Logged β) :
    (x >>= f).events = x.events ++ (f x.value).events := rfl

@[simp] theorem value_map (f : α → β) (x : Logged α) : (f <$> x).value = f x.value := rfl

@[ext] theorem ext {x y : Logged α} (hv : x.value = y.value) (he : x.events = y.events) : x = y := by
  cases x; cases y; simp_all

instance : LawfulMonad Logged := LawfulMonad.mk' Logged
  (fun x => by cases x; simp [Functor.map, bind])
  (fun a f => by apply ext <;> simp)
  (fun x f g => by apply ext <;> simp)

/-- Emit one event. -/
def tell (level : Log.Level) (message : String) (fields : List (String × Log.Value) := []) :
    Logged Unit :=
  ⟨(), [⟨level, message, fields⟩]⟩

@[simp] theorem value_tell (l : Log.Level) (m : String) (fs : List (String × Log.Value)) :
    (tell l m fs).value = () := rfl

@[simp] theorem events_tell (l : Log.Level) (m : String) (fs : List (String × Log.Value)) :
    (tell l m fs).events = [⟨l, m, fs⟩] := rfl

/-- The value of a logged fold is the fold of the values. -/
theorem value_foldlM (f : β → α → Logged β) (b : β) (as : List α) :
    (as.foldlM f b).value = as.foldl (fun b a => (f b a).value) b := by
  induction as generalizing b with
  | nil => rfl
  | cons a as ih => simp [ih]

end Logged

/-- A computation that may fail with an `ε` and logs on the way, also on the way to a failure. -/
abbrev Attempt (ε α : Type) : Type := ExceptT ε Logged α

namespace Attempt

variable {ε ε' α β : Type}

/-- The outcome of an attempt, its events forgotten. -/
def result (x : Attempt ε α) : Except ε α := x.run.value

/-- The events of an attempt. -/
def events (x : Attempt ε α) : List Log.Event := x.run.events

/-- Emit one event inside an attempt. -/
def tell (level : Log.Level) (message : String) (fields : List (String × Log.Value) := []) :
    Attempt ε Unit :=
  ExceptT.lift (Logged.tell level message fields)

/-- Read a failure of one kind as a failure of another. -/
def mapError (f : ε → ε') (x : Attempt ε α) : Attempt ε' α :=
  ExceptT.mk ⟨x.run.value.mapError f, x.run.events⟩

/-! ### Outcomes -/

@[simp] theorem result_pure (a : α) : (pure a : Attempt ε α).result = .ok a := rfl

@[simp] theorem result_throw (e : ε) : (throw e : Attempt ε α).result = .error e := rfl

@[simp] theorem result_tell (l : Log.Level) (m : String) (fs : List (String × Log.Value)) :
    (tell l m fs : Attempt ε Unit).result = .ok () := rfl

@[simp] theorem result_mk_pure (x : Except ε α) :
    result (ExceptT.mk (pure x : Logged (Except ε α))) = x := rfl

theorem result_mapError (f : ε → ε') (x : Attempt ε α) :
    (x.mapError f).result =
      match x.result with
      | .ok a => .ok a
      | .error e => .error (f e) := by
  change x.result.mapError f = _
  cases x.result <;> rfl

@[simp] theorem result_mapError_eq_ok {f : ε → ε'} {x : Attempt ε α} {a : α} :
    (x.mapError f).result = .ok a ↔ x.result = .ok a := by
  rw [result_mapError]
  cases x.result <;> simp

@[simp] theorem result_mapError_eq_error {f : ε → ε'} {x : Attempt ε α} {e' : ε'} :
    (x.mapError f).result = .error e' ↔ ∃ e, x.result = .error e ∧ f e = e' := by
  rw [result_mapError]
  cases x.result <;> simp

theorem result_bind (x : Attempt ε α) (f : α → Attempt ε β) :
    (x >>= f).result = x.result.bind fun a => (f a).result := by
  change (ExceptT.bindCont f x.run.value).value = x.run.value.bind fun a => (f a).result
  cases x.run.value <;> rfl

/-- A sequence of attempts succeeds just when each of them does. -/
theorem result_bind_eq_ok {x : Attempt ε α} {f : α → Attempt ε β} {b : β} :
    (x >>= f).result = .ok b ↔ ∃ a, x.result = .ok a ∧ (f a).result = .ok b := by
  rw [result_bind]
  cases x.result <;> simp [Except.bind]

/-- A sequence of attempts fails just when the first of them fails, or the first succeeds and the rest
fails. -/
theorem result_bind_eq_error {x : Attempt ε α} {f : α → Attempt ε β} {e : ε} :
    (x >>= f).result = .error e ↔
      x.result = .error e ∨ ∃ a, x.result = .ok a ∧ (f a).result = .error e := by
  rw [result_bind]
  cases x.result <;> simp [Except.bind]

end Attempt

end OntologySchema
