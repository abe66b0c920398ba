/-!
# JSON values

JSON values. A number is an integer, or else kept as it is written. The members of an object are kept in
the order in which they are written.

The fields of a record are the members of an object. A record may also be written as the list of its fields
in order, of which the last ones may be missing if they have defaults.
-/

namespace OntologySchema

/-- A JSON value. -/
inductive Json where
  | null
  | flag (b : Bool)
  | number (n : Int)
  /-- A number with a fraction or an exponent. -/
  | decimal (written : String)
  | text (s : String)
  | list (items : List Json)
  | object (members : List (String × Json))
  deriving Repr, Inhabited

namespace Json

/-- Whether a value is `null`. -/
def isNull : Json → Bool
  | .null => true
  | _ => false

/-- A text. -/
def text? : Json → Option String
  | .text s => some s
  | _ => none

/-- A truth value. -/
def flag? : Json → Option Bool
  | .flag b => some b
  | _ => none

/-- A natural number. -/
def natural? : Json → Option Nat
  | .number (.ofNat n) => some n
  | _ => none

/-- The items of a list. -/
def items? : Json → Option (List Json)
  | .list items => some items
  | _ => none

/-- The members of an object. -/
def members? : Json → Option (List (String × Json))
  | .object members => some members
  | _ => none

/-- The fields of a record, by name. In the list form at least the first `least` are there. -/
def fields? (names : List String) (least : Nat) : Json → Option (List (String × Json))
  | .object members => some members
  | .list items =>
    if least ≤ items.length && items.length ≤ names.length then some (names.zip items) else none
  | _ => none

end Json

end OntologySchema
