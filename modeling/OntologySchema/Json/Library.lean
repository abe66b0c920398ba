/-!
# Libraries for JSON

What a library for JSON gives: values, how they are made, how they are read, and their texts. Records are
written and read over this, so that it is open which library is used.

A record is read field by field. A field that is missing is no failure if it is optional or has a default,
and then an optional field may also be null; other fields than those that are read do not count.
-/

namespace OntologySchema.Json

/-- A library whose JSON values are of type `J`. -/
class Library (J : Type) where
  null : J
  text : String → J
  list : List J → J
  /-- A record, given its fields in order. -/
  record : List (String × J) → J
  /-- A table, given its entries in order. -/
  table : List (String × J) → J
  isNull : J → Bool
  text? : J → Option String
  items? : J → Option (List J)
  /-- The fields of a record whose fields have the given names, if at least the first `least` are there. -/
  fields? (names : List String) (least : Nat) : J → Option (List (String × J))
  entries? : J → Option (List (String × J))
  /-- The indented text of a value. -/
  print? : J → Option String
  parse? : String → Option J

variable {J α : Type} [Library J]

/-- An optional text, null if it is not there. -/
def ofOption : Option String → J
  | none => Library.null
  | some s => Library.text s

/-- A list of texts. -/
def ofTexts (ss : List String) : J := Library.list (ss.map Library.text)

/-- A list whose items are all read. -/
def listOf? (read : J → Option α) (j : J) : Option (List α) :=
  (Library.items? j).bind (·.mapM read)

/-- The entries of a table, their values all read. -/
def entriesOf? (read : J → Option α) (j : J) : Option (List (String × α)) :=
  (Library.entries? j).bind (·.mapM fun m => (read m.2).map fun v => (m.1, v))

/-- A field that has to be there. -/
def required (fields : List (String × J)) (name : String) (read : J → Option α) : Option α :=
  (fields.lookup name).bind read

/-- A field that may be missing or null. -/
def optional (fields : List (String × J)) (name : String) (read : J → Option α) :
    Option (Option α) :=
  match fields.lookup name with
  | none => some none
  | some j => if Library.isNull j then some none else (read j).map some

/-- A field that has a default when it is missing. -/
def defaulted (fields : List (String × J)) (name : String) (default : α) (read : J → Option α) :
    Option α :=
  match fields.lookup name with
  | none => some default
  | some j => read j

end OntologySchema.Json
