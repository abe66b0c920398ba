import OntologySchema.Proofs.Schema.Failure

/-!
# What a union covers

The variants of a union come from a descent along children, while the ancestors of a class come from a
climb along parents. In the ontology of a document the two agree: a class without children is below an
abstract class by the one just when the abstract class is among its ancestors by the other
(`leavesBelow_leaves`). So the union of an abstract class has a variant for each class without children
that descends from it, and no other.
-/

namespace OntologySchema.Schema

open Attempt

variable {s : SchemaOptions} {o : Ontology} {c : OntClass}

/-- The shape of the variant for a leaf: its display name as the type, and as the name of the variant. -/
def variantShape (leaf : OntClass) : FieldShape :=
  { type := leaf.name, name := Naming.snakeCase leaf.name }

/-- The variants of a union are those of its leaves. -/
theorem forall₂_variants {message : String} {leaves : List OntClass} {numbering next : Numbering}
    {variants : List Field}
    (h : (numberAll message (variantDraft o) leaves numbering).result = .ok (variants, next)) :
    List.Forall₂ (fun leaf v => v.shape = variantShape leaf) leaves variants := by
  refine (forall₂_drafted_variants h).imp fun leaf v hv => ?_
  obtain ⟨d, n, hd, rfl, -⟩ := hv
  obtain ⟨_, _, hd⟩ := result_bind_eq_ok.1 hd
  cases hd
  rfl

end OntologySchema.Schema
