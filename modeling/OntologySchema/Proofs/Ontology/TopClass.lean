import OntologySchema.Proofs.Ontology.Accounting

/-!
# The top class

The top class is nobody's parent: an axiom that makes it one is passed over, however the reference to it is
spelled (`parentsBelowTop_attach`), and so it has no children. That is all that keeps it out of an ontology. A
declaration takes it in like any other class, and then it may be the child of a class and the target of an
object property (`found_of_declared_thing`); where no declaration denotes it, it is found nowhere
(`topClass_mentioned_iff_declared`).
-/

namespace OntologySchema.Ontology

variable {rv : Resolver} {o : Ontology}

/-- No class has the top class as its parent. -/
def ParentsBelowTop (o : Ontology) : Prop :=
  ∀ k, ∀ p ∈ (o.find? k).bind (·.parent), isTopClass p = false

/-- The IRI `t` is that of a class, or a class names it as its parent, as a child or as a target. -/
def Mentions (o : Ontology) (t : String) : Prop :=
  ∃ k c, o.find? k = some c ∧
    (c.iri = t ∨ c.parent = some t ∨ t ∈ c.children ∨ ∃ p ∈ c.objectProperties, p.target = t)

/-! ### Parents -/

theorem ParentsBelowTop.foldl_gain (h : o.ParentsBelowTop) (gs : List Gain) :
    (gs.foldl gain o).ParentsBelowTop := by
  induction gs generalizing o with
  | nil => exact h
  | cons g gs ih =>
    refine ih fun k p hp => h k p ?_
    rwa [parent_gain] at hp

theorem ParentsBelowTop.link (h : o.ParentsBelowTop) {child parent : String}
    (hparent : isTopClass parent = false) : (o.link child parent).ParentsBelowTop := by
  intro k p hp
  rw [find?_link] at hp
  obtain ⟨c', hc', hp⟩ := Option.bind_eq_some_iff.1 hp
  obtain ⟨c, hc, rfl⟩ := Option.map_eq_some_iff.1 hc'
  by_cases hk : k = child
  · obtain rfl : parent = p := by simpa [linked, hk] using hp
    exact hparent
  · have hold : c.parent = some p := by simpa [linked, hk] using hp
    exact h k p (Option.bind_eq_some_iff.2 ⟨c, hc, hold⟩)

/-- An axiom of two classes links no class to the top class. -/
theorem ParentsBelowTop.attachParent (h : o.ParentsBelowTop) (subject parent : Reference) :
    (o.attachParent rv subject parent).value.ParentsBelowTop := by
  by_cases htop : DenotesTop rv parent
  · rw [attachParent_of_top htop]
    exact h
  · by_cases hlink : ∃ child parentIri, Linkable rv o subject parent child parentIri
    · obtain ⟨child, parentIri, hlink⟩ := hlink
      rw [attachParent_of_linkable htop hlink]
      exact h.link (Bool.eq_false_iff.2 ((not_isTopClass htop).2 hlink.parent_eq))
    · obtain ⟨e, -, hattach⟩ := attachParent_of_not_linkable htop hlink
      rw [hattach]
      exact h

/-- No axiom makes the top class a parent. -/
theorem parentsBelowTop_attach (h : o.ParentsBelowTop) (a : SubclassAxiom) :
    (attach rv o a).value.ParentsBelowTop := by
  rw [value_attach]
  refine ParentsBelowTop.foldl_gain ?_ _
  unfold withLink
  split
  · exact h.attachParent _ _
  · exact h

theorem parentsBelowTop_foldl (h : o.ParentsBelowTop) (as : List SubclassAxiom) :
    (as.foldl (fun o a => (attach rv o a).value) o).ParentsBelowTop := by
  induction as generalizing o with
  | nil => exact h
  | cons a as ih => exact ih (parentsBelowTop_attach h a)

theorem parentsBelowTop_ofDocument (root : String) (d : Document) :
    (ofDocument root d).value.ParentsBelowTop := by
  rw [value_ofDocument]
  refine parentsBelowTop_foldl (fun k p hp => ?_) d.axioms
  obtain ⟨c, hc, hp⟩ := Option.bind_eq_some_iff.1 hp
  obtain ⟨name, comments, rfl⟩ := unlinked_described hc
  cases hp

/-! ### Where it is found -/

/-- What a well-formed ontology mentions is there. -/
theorem WellFormed.mentions_iff (hw : o.WellFormed) {t : String} :
    o.Mentions t ↔ t ∈ o.classes.keys := by
  rw [Table.mem_keys_iff]
  constructor
  · rintro ⟨k, c, hc, rfl | hp | hq | ⟨p, hp, rfl⟩⟩
    · exact ⟨c, hw.keyed.find?_iri hc⟩
    · obtain ⟨-, d, hd, -⟩ := hw.parent_linked hc hp
      exact ⟨d, hd⟩
    · obtain ⟨d, hd, -⟩ := hw.child_linked hc hq
      exact ⟨d, hd⟩
    · obtain ⟨d, hd, -⟩ := hw.target_named hc hp
      exact ⟨d, hd⟩
  · rintro ⟨c, hc⟩
    exact ⟨t, c, hc, .inl (hw.keyed t c hc)⟩

/-- In the ontology of a document the top class, in any of its spellings, is nobody's parent and has no
children, and it is found as a class, as a child or as a target just when a declaration denotes it. -/
theorem topClass_mentioned_iff_declared (root : String) (d : Document) {t : String}
    (ht : isTopClass t = true) :
    (∀ k c, (ofDocument root d).value.find? k = some c →
        c.parent ≠ some t ∧ (c.iri = t → c.children = [])) ∧
      ((ofDocument root d).value.Mentions t ↔
        ∃ x ∈ d.declarations, ∃ r, x.class? = some r ∧
          d.resolver.canonical? r.present = some t) := by
  have hw := wellFormed_ofDocument root d
  have hbelow : ∀ k c p, (ofDocument root d).value.find? k = some c → c.parent = some p → p ≠ t := by
    rintro k c p hc hp rfl
    have htop := parentsBelowTop_ofDocument root d k p (Option.bind_eq_some_iff.2 ⟨c, hc, hp⟩)
    rw [ht] at htop
    cases htop
  refine ⟨fun k c hc => ⟨fun hp => hbelow k c t hc hp rfl, fun hiri => ?_⟩, ?_⟩
  · -- a child would name it as its parent
    refine List.eq_nil_iff_forall_not_mem.2 fun q hq => ?_
    obtain ⟨e, he, hp⟩ := hw.child_linked hc hq
    exact hbelow q e c.iri he hp hiri
  · rw [hw.mentions_iff, mem_keys_ofDocument]
    simp only [classIri?, Option.bind_eq_some_iff]

/-- A document that declares the top class, by its abbreviation, puts it below another class and refers to
it. -/
def thingDeclared : Document where
  prefixDeclarations := [{ name := "owl", iri := "http://www.w3.org/2002/07/owl#" }]
  declarations :=
    [{ class? := some { abbreviated := some "owl:Thing" } }, { class? := some { iri := some "urn:A" } }]
  axioms :=
    [{ classes := [{ abbreviated := some "owl:Thing" }, { iri := some "urn:A" }] },
     { classes := [{ iri := some "urn:A" }]
       objectSome :=
         [{ property := { iri := some "urn:p" }, target := { abbreviated := some "owl:Thing" } }] }]

theorem topClass_mentioned_thingDeclared :
    isTopClass topClass = true ∧ (ofDocument "" thingDeclared).value.Mentions topClass := by
  refine ⟨rfl, ((topClass_mentioned_iff_declared "" thingDeclared rfl).2).2 ?_⟩
  exact ⟨_, List.mem_cons_self, _, rfl, by decide⟩

/-- The top class is a class, a child and a target where it is declared. -/
theorem found_of_declared_thing :
    isTopClass topClass = true ∧
      ((ofDocument "" thingDeclared).value.find? topClass).map (·.iri) = some topClass ∧
      ((ofDocument "" thingDeclared).value.find? "urn:A").map (·.children) = some [topClass] ∧
      ((ofDocument "" thingDeclared).value.find? "urn:A").map
        (fun c => c.objectProperties.map (·.target)) = some [topClass] := by
  refine ⟨rfl, ?_, ?_, ?_⟩ <;> decide

end OntologySchema.Ontology
