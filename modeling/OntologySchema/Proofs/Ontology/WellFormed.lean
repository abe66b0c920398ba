import OntologySchema.Proofs.Hierarchy.Links
import OntologySchema.Proofs.Ontology.Edits

/-!
# The ontology of a document is well formed

After the first two passes no class has a link or a property, so nothing can be wrong with them; every
edit of the third pass keeps what the classes say true. It sets both ends of a link at once, and it copies
the name of a target after the last pass that changes names.
-/

namespace OntologySchema.Ontology

variable {rv : Resolver} {o o' : Ontology}

/-! ### Linking -/

/-- What linking `child` to `parent` makes of the class at `k`. -/
def linked (child parent k : String) (c : OntClass) : OntClass :=
  { c with
    parent := if k = child then some parent else c.parent
    children := if k = parent then (c.addChild child).children else c.children }

/-- Adding a child changes the children only. -/
theorem addChild_eq (c : OntClass) (k : String) :
    c.addChild k = { c with children := (c.addChild k).children } := by
  unfold OntClass.addChild
  split <;> rfl

theorem find?_link (o : Ontology) (child parent k : String) :
    (o.link child parent).find? k = (o.find? k).map (linked child parent k) := by
  unfold link
  rw [find?_modify, find?_modify]
  cases o.find? k with
  | none => simp
  | some c =>
    by_cases hc : k = child <;> by_cases hp : k = parent
    · simp only [linked, if_pos hc, if_pos hp, Option.map_some]
      rw [addChild_eq]
      unfold OntClass.addChild
      split <;> rfl
    · simp only [linked, if_pos hc, if_neg hp, Option.map_some]
    · simp only [linked, if_neg hc, if_pos hp, Option.map_some, ← addChild_eq]
    · simp only [linked, if_neg hc, if_neg hp, Option.map_some]

theorem mem_addChild {c : OntClass} {k q : String} :
    q ∈ (c.addChild k).children ↔ q ∈ c.children ∨ q = k := by
  unfold OntClass.addChild
  split <;> simp_all

theorem nodup_addChild {c : OntClass} {k : String} (h : c.children.Nodup) :
    (c.addChild k).children.Nodup := by
  unfold OntClass.addChild
  split
  · exact h
  · next hk =>
    refine List.nodup_append.2 ⟨h, by simp, fun q hq k' hk' he => hk ?_⟩
    rwa [← List.mem_singleton.1 hk', ← he]

theorem mem_children_linked {child parent k q : String} {c : OntClass} :
    q ∈ (linked child parent k c).children ↔ q ∈ c.children ∨ k = parent ∧ q = child := by
  by_cases hk : k = parent <;> simp [linked, hk, mem_addChild]

/-- Linking two classes keeps every link true. -/
theorem WellFormed.link (hw : o.WellFormed) {child parent : String} {c d : OntClass}
    (hc : o.find? child = some c) (hd : o.find? parent = some d) (hne : parent ≠ child)
    (hp : ∀ p, c.parent = some p → p = parent) : (o.link child parent).WellFormed := by
  have hfind : ∀ {k e'}, (o.link child parent).find? k = some e' →
      ∃ e, o.find? k = some e ∧ linked child parent k e = e' := by
    intro k e' h
    rwa [find?_link, Option.map_eq_some_iff] at h
  have hnew : ∀ {k e}, o.find? k = some e →
      (o.link child parent).find? k = some (linked child parent k e) := by
    intro k e h
    rw [find?_link, h]
    rfl
  constructor
  case keyed =>
    intro k e' h
    obtain ⟨e, he, rfl⟩ := hfind h
    exact hw.keyed k e he
  case parent_linked =>
    -- a parent is set only together with its child
    intro k e' p h hp'
    obtain ⟨e, he, rfl⟩ := hfind h
    by_cases hk : k = child
    · obtain rfl : parent = p := by simpa [linked, hk] using hp'
      have hei : e.iri = child := hk ▸ hw.keyed k e he
      refine ⟨hei ▸ hne, _, hnew hd, ?_⟩
      exact mem_children_linked.2 (.inr ⟨rfl, hei⟩)
    · obtain ⟨hpne, f, hf, hm⟩ := hw.parent_linked he (by simpa [linked, hk] using hp')
      exact ⟨hpne, _, hnew hf, mem_children_linked.2 (.inl hm)⟩
  case child_linked =>
    -- a child is added only together with its parent, and the parents of the others stay
    intro k e' q h hq
    obtain ⟨e, he, rfl⟩ := hfind h
    rcases mem_children_linked.1 hq with hq | ⟨rfl, rfl⟩
    · obtain ⟨f, hf, hfp⟩ := hw.child_linked he hq
      refine ⟨_, hnew hf, ?_⟩
      by_cases hqc : q = child
      · subst hqc
        obtain rfl := Option.some.inj (hc.symm.trans hf)
        simp [linked, hp _ hfp]
      · simpa [linked, hqc] using hfp
    · refine ⟨_, hnew hc, ?_⟩
      simp [linked, hw.keyed k e he]
  case children_nodup =>
    intro k e' h
    obtain ⟨e, he, rfl⟩ := hfind h
    by_cases hk : k = parent
    · simpa [linked, hk] using nodup_addChild (hw.children_nodup he)
    · simpa [linked, hk] using hw.children_nodup he
  case data_owned =>
    intro k e' p h hm
    obtain ⟨e, he, rfl⟩ := hfind h
    exact hw.data_owned (c := e) he hm
  case object_owned =>
    intro k e' p h hm
    obtain ⟨e, he, rfl⟩ := hfind h
    exact hw.object_owned (c := e) he hm
  case target_named =>
    intro k e' p h hm
    obtain ⟨e, he, rfl⟩ := hfind h
    obtain ⟨t, ht, hn⟩ := hw.target_named (c := e) he hm
    exact ⟨_, hnew ht, hn⟩

/-! ### Properties -/

/-- What else is said of a well-formed ontology's classes may change, if it is true. -/
theorem WellFormed.of_properties (hw : o.WellFormed) (data : String → OntClass → List DataProperty)
    (object : String → OntClass → List ObjectProperty)
    (hfind : ∀ k, o'.find? k = (o.find? k).map fun c =>
      { c with dataProperties := data k c, objectProperties := object k c })
    (hdata : ∀ k c p, o.find? k = some c → p ∈ data k c → p.owner = c.iri)
    (hobject : ∀ k c p, o.find? k = some c → p ∈ object k c →
      p.owner = c.iri ∧ ∃ t, o.find? p.target = some t ∧ p.targetName = t.name) :
    o'.WellFormed := by
  have hold : ∀ {k e'}, o'.find? k = some e' → ∃ e, o.find? k = some e ∧
      { e with dataProperties := data k e, objectProperties := object k e } = e' := by
    intro k e' h
    rwa [hfind, Option.map_eq_some_iff] at h
  have hnew : ∀ {k e}, o.find? k = some e → o'.find? k =
      some { e with dataProperties := data k e, objectProperties := object k e } := by
    intro k e h
    rw [hfind, h]
    rfl
  constructor
  case keyed =>
    intro k e' h
    obtain ⟨e, he, rfl⟩ := hold h
    exact hw.keyed k e he
  case parent_linked =>
    intro k e' p h hp
    obtain ⟨e, he, rfl⟩ := hold h
    obtain ⟨hne, d, hd, hm⟩ := hw.parent_linked he hp
    exact ⟨hne, _, hnew hd, hm⟩
  case child_linked =>
    intro k e' q h hq
    obtain ⟨e, he, rfl⟩ := hold h
    obtain ⟨d, hd, hp⟩ := hw.child_linked he hq
    exact ⟨_, hnew hd, hp⟩
  case children_nodup =>
    intro k e' h
    obtain ⟨e, he, rfl⟩ := hold h
    exact hw.children_nodup (c := e) he
  case data_owned =>
    intro k e' p h hm
    obtain ⟨e, he, rfl⟩ := hold h
    exact hdata k e p he hm
  case object_owned =>
    intro k e' p h hm
    obtain ⟨e, he, rfl⟩ := hold h
    exact (hobject k e p he hm).1
  case target_named =>
    intro k e' p h hm
    obtain ⟨e, he, rfl⟩ := hold h
    obtain ⟨-, t, ht, hn⟩ := hobject k e p he hm
    exact ⟨_, hnew ht, hn⟩

theorem mem_append_at {α : Type} {p q : α} {l : List α} {k owner : String} :
    q ∈ (if k = owner then l ++ [p] else l) ↔ q ∈ l ∨ k = owner ∧ q = p := by
  by_cases hk : k = owner <;> simp [hk]

theorem Edit.wellFormed (h : Edit o o') (hw : o.WellFormed) : o'.WellFormed := by
  cases h with
  | link hc hd hne hp => exact hw.link hc hd hne hp
  | @data owner _ p _ ho =>
    refine hw.of_properties
      (fun k c => if k = owner then c.dataProperties ++ [p] else c.dataProperties)
      (fun _ c => c.objectProperties) (fun k => ?_) (fun k e q he hq => ?_)
      fun k e q he hq => ⟨hw.object_owned he hq, hw.target_named he hq⟩
    · unfold addDataProperty
      rw [find?_modify]
      by_cases hk : k = owner <;> simp [hk]
    · rcases mem_append_at.1 hq with hq | ⟨rfl, rfl⟩
      · exact hw.data_owned he hq
      · rw [ho, hw.keyed k e he]
  | @object owner _ t p _ ho ht hn =>
    refine hw.of_properties (fun _ c => c.dataProperties)
      (fun k c => if k = owner then c.objectProperties ++ [p] else c.objectProperties)
      (fun k => ?_) (fun k e q he hq => hw.data_owned he hq) fun k e q he hq => ?_
    · unfold addObjectProperty
      rw [find?_modify]
      by_cases hk : k = owner <;> simp [hk]
    · rcases mem_append_at.1 hq with hq | ⟨rfl, rfl⟩
      · exact ⟨hw.object_owned he hq, hw.target_named he hq⟩
      · exact ⟨by rw [ho, hw.keyed k e he], t, ht, hn⟩

theorem Edits.wellFormed (h : Edits o o') (hw : o.WellFormed) : o'.WellFormed := by
  induction h with
  | refl => exact hw
  | tail _ he ih => exact he.wellFormed ih

/-! ### The three passes -/

/-- Classes without links and properties have nothing to be wrong about. -/
theorem wellFormed_of_unlinked
    (h : ∀ k c, o.find? k = some c → ∃ name comments, c = { iri := k, name, comments }) :
    o.WellFormed := by
  constructor
  case keyed =>
    intro k c hc
    obtain ⟨_, _, rfl⟩ := h k c hc
    rfl
  all_goals
    intro k c
    intros
    obtain ⟨_, _, rfl⟩ := h k c ‹_›
    simp_all

/-- The ontology of a document before its axioms. -/
def described (root : String) (d : Document) : Ontology :=
  d.annotations.foldl (fun o a => (annotate d.resolver o a).value)
    (d.declarations.foldl (fun o x => (declare d.resolver o x).value)
      { prefixes := d.prefixes, root := root })

theorem value_ofDocument (root : String) (d : Document) :
    (ofDocument root d).value =
      d.axioms.foldl (fun o a => (attach d.resolver o a).value) (described root d) := by
  unfold ofDocument described
  simp only [Logged.value_bind, Logged.value_foldlM]
  split <;> rfl

theorem edits_ofDocument (root : String) (d : Document) :
    Edits (described root d) (ofDocument root d).value := by
  rw [value_ofDocument]
  exact edits_foldl edits_attach _ _

theorem find?_described (root : String) (d : Document) (k : String) :
    (described root d).find? k =
      if ∃ x ∈ d.declarations, classIri? d.resolver x = some k then
        some ((d.annotations.filter fun a => d.resolver.canonical? a.subject = some k).foldl
          (fun c a => annotated a c) (newClass k))
      else none := by
  unfold described
  rw [find?_annotations, find?_declarations _ _ _ rfl]
  split <;> rfl

/-- Before the axioms no class has links or properties. -/
theorem unlinked_described {root : String} {d : Document} {k : String} {c : OntClass}
    (hc : (described root d).find? k = some c) :
    ∃ name comments, c = { iri := k, name, comments } := by
  rw [find?_described] at hc
  split at hc
  · obtain ⟨name, comments, h⟩ := exists_foldl_annotated
      (d.annotations.filter fun a => d.resolver.canonical? a.subject = some k) (newClass k)
    exact ⟨name, comments, (Option.some.inj hc).symm.trans h⟩
  · cases hc

theorem wellFormed_described (root : String) (d : Document) : (described root d).WellFormed :=
  wellFormed_of_unlinked fun _ _ hc => unlinked_described hc

theorem wellFormed_ofDocument (root : String) (d : Document) :
    (ofDocument root d).value.WellFormed :=
  (edits_ofDocument root d).wellFormed (wellFormed_described root d)

/-- The classes are those that are declared. -/
theorem mem_keys_ofDocument (root : String) (d : Document) (k : String) :
    k ∈ (ofDocument root d).value.classes.keys ↔
      ∃ x ∈ d.declarations, classIri? d.resolver x = some k := by
  rw [(edits_ofDocument root d).keys_eq, Table.mem_keys_iff]
  change (∃ c, (described root d).find? k = some c) ↔ _
  rw [find?_described]
  split <;> simp_all

/-- The ontology of a document is well formed: classes stand at their own IRIs, which are the canonical
IRIs of the declared classes; parents and children agree in both directions, and no class is a child
twice; properties name the class that has them, and object properties the display name of their target. -/
theorem ofDocument_consistent (root : String) (d : Document) :
    (ofDocument root d).value.WellFormed ∧
      (∀ k, k ∈ (ofDocument root d).value.classes.keys ↔
        ∃ x ∈ d.declarations, ∃ r, x.class? = some r ∧
          d.resolver.canonical? r.present = some k) ∧
      ∀ k₁ k₂ c₁ c₂ q, (ofDocument root d).value.find? k₁ = some c₁ →
        (ofDocument root d).value.find? k₂ = some c₂ →
        q ∈ c₁.children → q ∈ c₂.children → k₁ = k₂ := by
  have hw := wellFormed_ofDocument root d
  refine ⟨hw, fun k => ?_, fun k₁ k₂ c₁ c₂ q h₁ h₂ hq₁ hq₂ => hw.parent_unique h₁ h₂ hq₁ hq₂⟩
  rw [mem_keys_ofDocument]
  simp only [classIri?, Option.bind_eq_some_iff]

end OntologySchema.Ontology
