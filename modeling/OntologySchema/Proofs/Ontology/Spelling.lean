import OntologySchema.Proofs.Ontology.Faithful

/-!
# The spelling of class references

A document may refer to a class by its absolute IRI, by an abbreviated one or by one that is relative to the
base. Every step resolves the reference before it uses it, so the ontology is the same, and what is said on
the way is the same, if some of these references are written as the canonical IRI instead
(`ofDocument_respelled`). One step looks at the reference as it is written: an axiom whose superclass is a
spelling of the top class is passed over. Such references are left as they are here; a reference that is
only resolved to the top class may be written out.
-/

namespace OntologySchema

/-- A class reference in another spelling: the same, or nothing but its canonical IRI. What is written out is
no spelling of the top class, and its canonical IRI is absolute. -/
inductive Reference.Respelled (rv : Resolver) (r : Reference) : Reference → Prop
  | same : Respelled rv r r
  | canonical {iri : String} (hr : rv.canonical? r.present = some iri) (hne : iri ≠ "")
      (habsolute : Resolver.isRelative iri = false)
      (htop : ∀ t ∈ r.present.identifier?, isTopClass t = false) :
      Respelled rv r { iri := some iri }

/-- Class references are in another spelling, and all other references are the same. -/
def Respelling.ofClasses (rv : Resolver) : Respelling where
  ofClass := Reference.Respelled rv

namespace Ontology

variable {rv : Resolver}

/-! ### References -/

/-- An absolute IRI is its own canonical IRI. -/
theorem canonical?_absolute {iri : String} (hne : iri ≠ "")
    (habsolute : Resolver.isRelative iri = false) :
    rv.canonical? (Reference.present { iri := some iri }) = some iri := by
  simp [Reference.present, nonempty?, Resolver.canonical?, Option.filter, hne, habsolute,
    Prefixes.resolve, Except.toOption]

/-- A written out reference has the same canonical IRI, and it denotes the top class if it did. -/
theorem faithful_ofClasses (rv : Resolver) : (Respelling.ofClasses rv).Faithful rv where
  canonical h := by
    cases h with
    | same => rfl
    | canonical hr hne habsolute =>
      rw [canonical_of_some hr, canonical_of_some (canonical?_absolute hne habsolute)]
  top h := by
    cases h with
    | same => rfl
    | @canonical iri hr hne habsolute htop =>
      have hiri : rv.canonical? (Reference.present { iri := some iri }) = some iri :=
        canonical?_absolute hne habsolute
      constructor
      · rintro (⟨t, ht, hisTop⟩ | ⟨t, ht, hisTop⟩)
        · rw [htop t ht] at hisTop
          cases hisTop
        · cases hr.symm.trans ht
          exact .inr ⟨_, hiri, hisTop⟩
      · -- written out, the top class is met before it is resolved
        rintro (⟨t, ht, hisTop⟩ | ⟨t, ht, hisTop⟩)
        · obtain rfl : t = iri := by
            simpa [Reference.present, nonempty?, Option.filter, hne, Reference.identifier?]
              using ht.symm
          exact .inr ⟨t, hr, hisTop⟩
        · cases hiri.symm.trans ht
          exact .inr ⟨_, hr, hisTop⟩
  property h := congrArg Reference.present h
  individual h := congrArg Reference.present h
  datatype h := congrArg Reference.present h
  subject {a a'} h := by
    have hwritten : a.writtenSubject = a'.writtenSubject := h
    unfold Annotation.subject
    rw [hwritten]

/-! ### Steps -/

theorem declare_respelled (o : Ontology) {x x' : Declaration}
    (h : x.Like (.ofClasses rv) x') : declare rv o x = declare rv o x' :=
  declare_faithful (faithful_ofClasses rv) o h

theorem annotate_respelled (o : Ontology) {a a' : Annotation} (h : a.Like (.ofClasses rv) a') :
    annotate rv o a = annotate rv o a' :=
  annotate_faithful (faithful_ofClasses rv) o h

theorem attach_respelled (o : Ontology) {a a' : SubclassAxiom} (h : a.Like (.ofClasses rv) a') :
    attach rv o a = attach rv o a' :=
  attach_faithful (faithful_ofClasses rv) o h

/-! ### Documents -/

/-- Class references may be spelled as one likes: written as their canonical IRIs, any of them, they lead to
the same ontology, and to the same events. -/
theorem ofDocument_respelled {d d' : Document} (h : d.Like (.ofClasses d.resolver) d')
    (root : String) : ofDocument root d' = ofDocument root d := by
  have hprefixes : d.prefixes = d'.prefixes := congrArg Resolver.prefixes h.resolver
  have hdeclarations := Logged.foldlM_eq_of_forall₂ declare_respelled h.declarations
  have hannotations := Logged.foldlM_eq_of_forall₂ annotate_respelled h.annotations
  have haxioms := Logged.foldlM_eq_of_forall₂ attach_respelled h.axioms
  unfold ofDocument
  simp only [← hprefixes, ← h.resolver, hdeclarations, hannotations, haxioms]

/-- Two classes in the given spellings: `a` is below the second and has a property that refers to it, and the
second, `b`, is below `top`. -/
def shortAndLong (a b top : Reference) : Document where
  xmlBase := some "urn:/doc#"
  prefixDeclarations :=
    [{ name := "ex", iri := "urn:/" }, { name := "o", iri := "http://www.w3.org/2002/07/owl#" }]
  declarations := [{ class? := some a }, { class? := some b }]
  axioms :=
    [{ classes := [b, top] }, { classes := [a, { iri := some "#B" }] },
     { classes := [a]
       objectSome := [{ property := { iri := some "urn:/to" }, target := b }] }]

/-- With classes in abbreviated and relative spelling. -/
def spelledShort : Document :=
  shortAndLong { abbreviated := some "ex:A" } { iri := some "#B" } { abbreviated := some "o:Thing" }

/-- With most of them written out. -/
def spelledOut : Document :=
  shortAndLong { iri := some "urn:/A" } { iri := some "urn:/doc#B" } { iri := some topClass }

theorem spelledShort_like : spelledShort.Like (.ofClasses spelledShort.resolver) spelledOut := by
  have ha : Reference.Respelled spelledShort.resolver { abbreviated := some "ex:A" }
      { iri := some "urn:/A" } :=
    .canonical (by decide) (by decide) (by decide) (by decide)
  have hb : Reference.Respelled spelledShort.resolver { iri := some "#B" }
      { iri := some "urn:/doc#B" } :=
    .canonical (by decide) (by decide) (by decide) (by decide)
  have htop : Reference.Respelled spelledShort.resolver { abbreviated := some "o:Thing" }
      { iri := some topClass } :=
    .canonical (by decide) (by decide) (by decide) (by decide)
  refine ⟨rfl, ?_, ?_, .nil⟩
  · exact .cons ⟨.some ha, .none, .none, .none⟩ (.cons ⟨.some hb, .none, .none, .none⟩ .nil)
  · refine .cons ⟨.cons hb (.cons htop .nil), .nil, .nil, .nil, .nil⟩
      (.cons ⟨.cons ha (.cons .same .nil), .nil, .nil, .nil, .nil⟩ (.cons ?_ .nil))
    exact ⟨.cons ha .nil, .nil, .nil, .cons ⟨rfl, hb⟩ .nil, .nil⟩

theorem ofDocument_respelled_spelledShort :
    spelledShort.Like (.ofClasses spelledShort.resolver) spelledOut ∧
      spelledShort.declarations ≠ spelledOut.declarations ∧
      ofDocument "" spelledOut = ofDocument "" spelledShort ∧
      ((ofDocument "" spelledOut).value.find? "urn:/A").bind (·.parent) = some "urn:/doc#B" := by
  have hresult := ofDocument_respelled spelledShort_like ""
  refine ⟨spelledShort_like, by decide, hresult, ?_⟩
  decide +kernel

end Ontology

end OntologySchema
