import OntologySchema.Document.Basic
import OntologySchema.Naming

/-!
# Resolving references

A document fixes what its references mean: its prefixes expand abbreviated IRIs, and its base turns a
relative IRI, one that begins with a number sign, into an absolute one.

A property or an individual is registered under the identifier with which it was declared, in
whatever form. `lookupKeys` lists the identifiers under which a reference to it is looked for.
-/

namespace OntologySchema

/-- What gives the references of a document a meaning. -/
structure Resolver where
  prefixes : Prefixes
  base? : Option String
  deriving DecidableEq, Repr

/-- The resolver of a document. -/
def Document.resolver (d : Document) : Resolver := ⟨d.prefixes, d.base?⟩

/-- A relative IRI after a base; they share one number sign. -/
def joinFragment (base fragment : String) : String :=
  match base.toList.reverse with
  | '#' :: stem => String.ofList stem.reverse ++ fragment
  | _ => base ++ fragment

namespace Resolver

/-- Whether an IRI is relative. -/
def isRelative (iri : String) : Bool := iri.toList.head? = some '#'

/-- The canonical IRI of a reference. -/
def canonical? (rv : Resolver) (r : Reference) : Option String :=
  match r.iri.filter isRelative, rv.base? with
  | some fragment, some base => some (joinFragment base fragment)
  | _, _ => (rv.prefixes.resolve r).toOption

/-- Add a key at the end, unless it is empty or there. -/
def addKey (keys : List String) (key : String) : List String :=
  if key = "" || keys.contains key then keys else keys ++ [key]

/-- The identifiers under which the entity of a reference may be registered: the absolute form, its
abbreviation, the abbreviated form and its expansion. -/
def lookupKeys (rv : Resolver) (r : Reference) : List String :=
  let absolute := match r.iri with
    | some iri => [iri, rv.prefixes.abbreviate iri]
    | none => []
  let abbreviated := match r.abbreviated with
    | some a => a :: (rv.prefixes.expand a).toOption.toList
    | none => []
  (absolute ++ abbreviated).foldl addKey []

end Resolver

/-- The name that an identifier suggests: the local part of the abbreviated form, else the last segment
of the absolute one. -/
def Reference.derivedName (r : Reference) : String :=
  match r.abbreviated, r.iri with
  | some abbreviated, _ => Naming.localPart abbreviated
  | none, some iri => Naming.lastSegment iri
  | none, none => ""

end OntologySchema
