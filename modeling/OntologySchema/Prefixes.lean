import OntologySchema.Reference
import OntologySchema.Table.Basic
import OntologySchema.Text.Blank

/-!
# Prefixes

A table of prefixes maps short names to the bases of IRIs. Expanding `short:suffix` puts the base of
`short` in front of `suffix`. Abbreviating an absolute IRI replaces the longest base that it starts
with by the short name of that base; of the short names of one base the least counts, and empty bases
do not count.
-/

namespace OntologySchema

/-- Short names and the IRI bases they stand for. -/
abbrev Prefixes := Table String

/-- Why a reference has no absolute IRI. -/
inductive IriError where
  | unknownPrefix (short : String)
  | noSeparator (abbreviated : String)
  | unnamed
  deriving DecidableEq, Repr

/-- The wording of an error. -/
def IriError.message : IriError → String
  | .unknownPrefix short => "Unknown prefix '" ++ short ++ "'"
  | .noSeparator s => "Invalid IRI '" ++ s ++ "': missing prefix separator ':'"
  | .unnamed => "Invalid IRI '': neither IRI nor abbreviated IRI present"

namespace Prefixes

/-- The absolute IRI of an abbreviated one. -/
def expand (t : Prefixes) (abbreviated : String) : Except IriError String :=
  match Text.splitFirst? ':' abbreviated.toList with
  | none => .error (.noSeparator abbreviated)
  | some (short, suffix) =>
    match t.find? (String.ofList short) with
    | none => .error (.unknownPrefix (String.ofList short))
    | some base => .ok (base ++ String.ofList suffix)

/-- Whether a base is the start of an IRI; the empty base is the start of none. -/
def fits (iri base : String) : Bool := base ≠ "" && base.toList.isPrefixOf iri.toList

/-- The entry that abbreviates an IRI: the first among those with the longest base that fits. -/
def best? (iri : String) (entries : List (String × String)) : Option (String × String) :=
  entries.foldl
    (fun best e =>
      if fits iri e.2 && best.all (fun b => b.2.length < e.2.length) then some e else best)
    none

/-- The abbreviated form of an absolute IRI, or the IRI itself if no base fits. -/
def abbreviate (t : Prefixes) (iri : String) : String :=
  match best? iri t.entries with
  | none => iri
  | some (short, base) => short ++ ":" ++ String.ofList (iri.toList.drop base.length)

/-- The absolute IRI of a reference: as given, else by expanding the abbreviated form. -/
def resolve (t : Prefixes) (r : Reference) : Except IriError String :=
  match r.iri, r.abbreviated with
  | some iri, _ => .ok iri
  | none, some abbreviated => expand t abbreviated
  | none, none => .error .unnamed

end Prefixes

end OntologySchema
