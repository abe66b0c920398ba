import OntologySchema.Log
import OntologySchema.FieldNumber.Hash

/-!
# Field numbers

The fields of a message are numbered in one of two ways. Hashed numbers depend on the key of the field
alone: the hash of the key, reduced modulo the bound, plus one. Ascending numbers count 1, 2, 3, ... in
the order of the fields and run out before the bound.

A numbering belongs to one message. A number that a field of the message has already is handed out all
the same, and an event names the first field that has it.
-/

namespace OntologySchema

/-- Protocol buffers reserve the numbers from here on. -/
def reservedFrom : Nat := 19000

/-- Ascending numbers have run out: the counter reached the bound. -/
structure NumbersExhausted where
  counter : Nat
  deriving DecidableEq, Repr

/-- The wording of the error. -/
def NumbersExhausted.message (e : NumbersExhausted) : String :=
  "Field numbers exhausted: counter reached " ++ toString e.counter ++
    ", numbers from 19000 on are reserved"

namespace FieldNumber

/-- The bytes of a key, which is given in parts. -/
def keyBytes (parts : List String) : List UInt8 :=
  parts.flatMap fun s => s.toList.flatMap String.utf8EncodeChar

/-- The number of a key. -/
def hashed (parts : List String) : Nat :=
  (XXH64.hash (keyBytes parts)).toNat % reservedFrom + 1

/-- The number after `counter`. -/
def ascending (counter : Nat) : Except NumbersExhausted Nat :=
  if counter + 1 ≥ reservedFrom then .error ⟨counter + 1⟩ else .ok (counter + 1)

/-- The next number and the counter after it. -/
def next (hash : Bool) (counter : Nat) (parts : List String) :
    Except NumbersExhausted (Nat × Nat) :=
  if hash then .ok (hashed parts, counter)
  else (ascending counter).map fun n => (n, n)

end FieldNumber

/-- How the fields of one message are numbered, and how far the numbering has come. -/
structure Numbering where
  /-- Numbers are hashed, not counted. -/
  hashed : Bool
  /-- The number that was counted last, zero if none was. -/
  counter : Nat := 0
  /-- Each number that was handed out, with the first field that has it. -/
  holders : List (Nat × String) := []
  deriving DecidableEq, Repr

namespace Numbering

/-- The numbering of a message that has no field yet. -/
def fresh (hash : Bool) : Numbering := { hashed := hash }

/-- Ask for the number of a field of `message`, given its key: the number, if there is one, and the
numbering after the call. A refusal leaves the numbering as it is. -/
def call (message field : String) (key : List String) (numbering : Numbering) :
    Logged (Except NumbersExhausted Nat × Numbering) := do
  match FieldNumber.next numbering.hashed numbering.counter key with
  | .error e => return (.error e, numbering)
  | .ok (n, counter) =>
    match numbering.holders.lookup n with
    | some first =>
      Logged.tell .warn "Field number collision"
        [("message", .text message), ("number", .number n), ("first", .text first),
         ("second", .text field)]
      return (.ok n, { numbering with counter })
    | none =>
      return (.ok n, { numbering with counter, holders := (n, field) :: numbering.holders })

/-- Number a field of `message`, given its key; without a number there is nothing to go on with. -/
def assign (message field : String) (key : List String) (numbering : Numbering) :
    Attempt NumbersExhausted (Nat × Numbering) :=
  ExceptT.mk do
    let (number, numbering) ← numbering.call message field key
    return number.map fun n => (n, numbering)

end Numbering

end OntologySchema
