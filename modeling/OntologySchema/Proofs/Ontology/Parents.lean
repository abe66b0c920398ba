import OntologySchema.Proofs.Ontology.Accounting
import OntologySchema.Proofs.Ontology.Entries

/-!
# The first parent counts

Whether an axiom of two classes can link them is told by the declarations (`Document.link?`). Of the axioms
that can link a class to a parent the first does, and no later one has an effect, whether it names the same
parent or another. So the parents and the children of all classes are read off the links that a document asks
for, in their order (`links_ofDocument`).

The links of a document are taken one after the other by `linkFree`, which knows nothing of axioms; that each
class is linked as the first of the links says (`HasLinks`) is kept by each link and so by all of them
(`HasLinks.foldl_linkFree`).
-/

namespace OntologySchema

/-- The child and the parent that an axiom of two classes links, if nothing has been linked before: both are
declared, they are two classes, and the parent is not the top class, as it is written or as it is resolved. -/
def Document.link? (d : Document) (a : SubclassAxiom) : Option (String × String) :=
  match a.classes with
  | [subject, parent] => do
    let child ← (d.resolver.canonical? subject.present).filter d.declaresClass
    let parentIri ← (d.resolver.canonical? parent.present).filter d.declaresClass
    if parent.present.identifier?.any isTopClass || isTopClass parentIri || parentIri = child then none
    else some (child, parentIri)
  | _ => none

/-- The links that the axioms of a document ask for, in the order of the document. -/
def Document.links (d : Document) : List (String × String) := d.axioms.filterMap d.link?

/-- The parent that the first of the links gives to a class. -/
def firstParent? (links : List (String × String)) (k : String) : Option String :=
  (links.find? (·.1 = k)).map (·.2)

/-- The classes to which the first of their links gives the parent `k`, in the order of these links. -/
def firstChildren (links : List (String × String)) (k : String) : List String :=
  (links.map (·.1)).eraseDups.filter fun q => firstParent? links q = some k

/-! ### Lists of links -/

section Links

variable {links : List (String × String)} {child parent k : String}

theorem firstParent?_eq_none_iff : firstParent? links k = none ↔ k ∉ links.map (·.1) := by
  rw [firstParent?, Option.map_eq_none_iff, List.find?_eq_none, List.mem_map]
  constructor
  · rintro h ⟨l, hl, rfl⟩
    exact h l hl (decide_eq_true rfl)
  · intro h l hl hk
    exact h ⟨l, hl, of_decide_eq_true hk⟩

theorem firstParent?_concat (links : List (String × String)) (child parent k : String) :
    firstParent? (links ++ [(child, parent)]) k =
      (firstParent? links k).or (if k = child then some parent else none) := by
  unfold firstParent?
  rw [List.find?_append]
  cases links.find? (·.1 = k) with
  | some l => simp
  | none => by_cases hk : k = child <;> simp [hk, eq_comm]

theorem mem_firstChildren {q : String} :
    q ∈ firstChildren links k ↔ firstParent? links q = some k := by
  unfold firstChildren
  rw [List.mem_filter, List.mem_eraseDups, decide_eq_true_eq, and_iff_right_iff_imp]
  intro h
  by_contra hq
  rw [firstParent?_eq_none_iff.2 hq] at h
  cases h

/-- A class that has a parent gets no other. -/
theorem firstParent?_concat_of_linked (h : firstParent? links child ≠ none) (parent k : String) :
    firstParent? (links ++ [(child, parent)]) k = firstParent? links k := by
  rw [firstParent?_concat]
  by_cases hk : k = child
  · obtain ⟨p, hp⟩ := Option.ne_none_iff_exists'.1 (hk ▸ h)
    simp [hp]
  · simp [hk]

theorem firstChildren_concat_of_linked (h : firstParent? links child ≠ none) (parent k : String) :
    firstChildren (links ++ [(child, parent)]) k = firstChildren links k := by
  have hmem : child ∈ links.map (·.1) := by
    by_contra hnot
    exact h (firstParent?_eq_none_iff.2 hnot)
  unfold firstChildren
  rw [List.map_append, List.eraseDups_append]
  simp [List.removeAll, hmem, firstParent?_concat_of_linked h]

/-- A class that has no parent becomes the last child of the one that it gets. -/
theorem firstChildren_concat_of_free (h : firstParent? links child = none) (parent k : String) :
    firstChildren (links ++ [(child, parent)]) k =
      firstChildren links k ++ if k = parent then [child] else [] := by
  have hmem : child ∉ links.map (·.1) := firstParent?_eq_none_iff.1 h
  have hlast : firstParent? (links ++ [(child, parent)]) child = some parent := by
    simp [firstParent?_concat, h]
  unfold firstChildren
  rw [List.map_append, List.eraseDups_append, List.filter_append]
  congr 1
  · -- the classes that were linked before are others
    refine List.filter_congr fun q hq => ?_
    have hne : q ≠ child := fun he => hmem (he ▸ List.mem_eraseDups.1 hq)
    rw [firstParent?_concat, if_neg hne, Option.or_none]
  · have hone : [child].eraseDups = [child] := by simp [List.eraseDups_cons]
    by_cases hk : k = parent
    · simp [List.removeAll, hmem, hone, hlast, hk]
    · simp [List.removeAll, hmem, hone, hlast, hk, Ne.symm hk]

end Links

namespace Ontology

variable {root : String} {d : Document} {o : Ontology} {a : SubclassAxiom}
  {links : List (String × String)} {child parent : String}

/-! ### Taking links -/

/-- Link two classes, unless the child has another parent. -/
def linkFree (o : Ontology) (l : String × String) : Ontology :=
  if ((o.find? l.1).bind (·.parent)).all (· = l.2) then o.link l.1 l.2 else o

/-- Each class has the parent and the children that the first of its links gives it. -/
def HasLinks (o : Ontology) (links : List (String × String)) : Prop :=
  ∀ k c, o.find? k = some c → c.parent = firstParent? links k ∧ c.children = firstChildren links k

theorem contains_linkFree (o : Ontology) (l : String × String) (k : String) :
    (o.linkFree l).classes.contains k = o.classes.contains k := by
  unfold linkFree
  split
  · exact (sameNames_link o l.1 l.2).contains_eq k
  · rfl

theorem contains_foldl_linkFree (links : List (String × String)) (o : Ontology) :
    (links.foldl linkFree o).classes.contains = o.classes.contains := by
  induction links generalizing o with
  | nil => rfl
  | cons l links ih => exact (ih _).trans (funext (contains_linkFree o l))

theorem linked_eq_self {k : String} {c : OntClass} (hparent : k = child → c.parent = some parent)
    (hchild : k = parent → child ∈ c.children) : linked child parent k c = c := by
  have hp : (if k = child then some parent else c.parent) = c.parent := by
    split
    · next hk => exact (hparent hk).symm
    · rfl
  have hq : (if k = parent then (c.addChild child).children else c.children) = c.children := by
    split
    · next hk => rw [OntClass.addChild, if_pos (hchild hk)]
    · rfl
  rw [linked, hp, hq]

theorem link_eq_self (h : ∀ k c, o.find? k = some c → linked child parent k c = c) :
    o.link child parent = o := by
  have hclasses : (o.link child parent).classes = o.classes := by
    refine Table.ext_find? fun k => (find?_link o child parent k).trans ?_
    cases hc : o.find? k with
    | none => exact hc.symm
    | some c => rw [Option.map_some, h k c hc]; exact hc.symm
  calc o.link child parent = { o with classes := (o.link child parent).classes } := rfl
    _ = o := by rw [hclasses]

namespace HasLinks

theorem parent_eq (h : o.HasLinks links) (hthere : o.classes.contains child = true) :
    (o.find? child).bind (·.parent) = firstParent? links child := by
  obtain ⟨c, hc⟩ := contains_iff.1 hthere
  rw [hc, Option.bind_some, (h child c hc).1]

/-- A class that is linked already is not linked again. -/
theorem linkFree_eq_self (h : o.HasLinks links) (hthere : o.classes.contains child = true)
    (hlinked : firstParent? links child ≠ none) (parent : String) :
    o.linkFree (child, parent) = o := by
  obtain ⟨p, hp⟩ := Option.ne_none_iff_exists'.1 hlinked
  rw [linkFree, h.parent_eq hthere, hp, Option.all_some]
  by_cases hsame : p = parent
  · subst hsame
    rw [if_pos (by simp)]
    refine link_eq_self fun k c hc => ?_
    obtain ⟨hparent, hchildren⟩ := h k c hc
    refine linked_eq_self ?_ ?_
    · rintro rfl
      rw [hparent, hp]
    · rintro rfl
      rw [hchildren]
      exact mem_firstChildren.2 hp
  · rw [if_neg (by simpa using hsame)]

/-- A link that is taken gives the child its parent if it has none. -/
theorem linkFree (h : o.HasLinks links) (hthere : o.classes.contains child = true)
    (parent : String) : (o.linkFree (child, parent)).HasLinks (links ++ [(child, parent)]) := by
  cases hfirst : firstParent? links child with
  | none =>
    rw [Ontology.linkFree, h.parent_eq hthere, hfirst, Option.all_none, if_pos rfl]
    intro k c' hc'
    rw [find?_link, Option.map_eq_some_iff] at hc'
    obtain ⟨c, hc, rfl⟩ := hc'
    obtain ⟨hparent, hchildren⟩ := h k c hc
    have hnew : child ∉ firstChildren links k := by simp [mem_firstChildren, hfirst]
    rw [firstParent?_concat, firstChildren_concat_of_free hfirst]
    unfold linked OntClass.addChild
    by_cases hk : k = child <;> by_cases hkp : k = parent <;> simp_all
  | some p =>
    have hlinked : firstParent? links child ≠ none := by simp [hfirst]
    rw [h.linkFree_eq_self hthere hlinked]
    intro k c hc
    rw [firstParent?_concat_of_linked hlinked, firstChildren_concat_of_linked hlinked]
    exact h k c hc

/-- Links are taken one after the other. -/
theorem foldl_linkFree (h : o.HasLinks links) (more : List (String × String))
    (hthere : ∀ l ∈ more, o.classes.contains l.1 = true) :
    (more.foldl Ontology.linkFree o).HasLinks (links ++ more) := by
  induction more generalizing o links with
  | nil => rwa [List.append_nil]
  | cons l more ih =>
    obtain ⟨hl, hmore⟩ := List.forall_mem_cons.1 hthere
    rw [List.append_cons]
    refine ih (h.linkFree hl l.2) fun l' hl' => ?_
    rw [contains_linkFree]
    exact hmore l' hl'

end HasLinks

/-! ### Axioms of two classes -/

theorem denotesTop_iff {rv : Resolver} {r : Reference} {iri : String}
    (h : rv.canonical? r = some iri) :
    DenotesTop rv r ↔ r.identifier?.any isTopClass = true ∨ isTopClass iri = true := by
  simp [DenotesTop, h, Option.any_eq_true]

theorem link?_eq_some_iff {parentIri : String} :
    d.link? a = some (child, parentIri) ↔ ∃ subject parent, a.classes = [subject, parent] ∧
      d.resolver.canonical? subject.present = some child ∧ d.declaresClass child = true ∧
      ¬ DenotesTop d.resolver parent.present ∧
      d.resolver.canonical? parent.present = some parentIri ∧ d.declaresClass parentIri = true ∧
      parentIri ≠ child := by
  unfold Document.link?
  constructor
  · intro h
    split at h
    · next subject parent hclasses =>
      obtain ⟨c, hc, h⟩ := Option.bind_eq_some_iff.1 h
      obtain ⟨p, hp, h⟩ := Option.bind_eq_some_iff.1 h
      obtain ⟨hc, hcd⟩ := Option.filter_eq_some_iff.1 hc
      obtain ⟨hp, hpd⟩ := Option.filter_eq_some_iff.1 hp
      split at h
      · cases h
      · next hcond =>
        cases h
        simp only [Bool.or_eq_true, decide_eq_true_eq, not_or] at hcond
        obtain ⟨⟨hwritten, hresolved⟩, hne⟩ := hcond
        refine ⟨subject, parent, hclasses, hc, hcd, ?_, hp, hpd, hne⟩
        rw [denotesTop_iff hp]
        exact not_or.2 ⟨hwritten, hresolved⟩
    · cases h
  · rintro ⟨subject, parent, hclasses, hc, hcd, htop, hp, hpd, hne⟩
    rw [denotesTop_iff hp] at htop
    obtain ⟨hwritten, hresolved⟩ := not_or.1 htop
    have hchild : (d.resolver.canonical? subject.present).filter d.declaresClass = some child :=
      Option.filter_eq_some_iff.2 ⟨hc, hcd⟩
    have hparent : (d.resolver.canonical? parent.present).filter d.declaresClass = some parentIri :=
      Option.filter_eq_some_iff.2 ⟨hp, hpd⟩
    rw [hclasses]
    simp [hchild, hparent, hne, hwritten, hresolved]

theorem withLink_of_classes {rv : Resolver} {subject superclass : Reference}
    (h : a.classes = [subject, superclass]) (o : Ontology) :
    withLink rv o a = (o.attachParent rv subject.present superclass.present).value := by
  unfold withLink SubclassAxiom.shape?
  rw [h]

/-- Two classes can be linked if the axiom asks for it and the child has no other parent. -/
theorem linkable_iff (hdeclared : o.classes.contains = d.declaresClass) {subject superclass : Reference}
    (hclasses : a.classes = [subject, superclass]) (htop : ¬ DenotesTop d.resolver superclass.present) :
    Linkable d.resolver o subject.present superclass.present child parent ↔
      d.link? a = some (child, parent) ∧ ((o.find? child).bind (·.parent)).all (· = parent) = true := by
  constructor
  · intro h
    refine ⟨link?_eq_some_iff.2 ⟨subject, superclass, hclasses, h.child_eq,
      hdeclared ▸ h.child_declared, htop, h.parent_eq, hdeclared ▸ h.parent_declared, h.ne⟩, ?_⟩
    refine (Option.all_eq_true _ _).2 fun p hp => ?_
    obtain ⟨c, hc, hcp⟩ := Option.bind_eq_some_iff.1 hp
    exact decide_eq_true (h.free c p hc hcp)
  · rintro ⟨hlink, hfree⟩
    obtain ⟨subject', superclass', hclasses', hc, hcd, -, hp, hpd, hne⟩ := link?_eq_some_iff.1 hlink
    cases hclasses.symm.trans hclasses'
    exact
      { child_eq := hc, parent_eq := hp, child_declared := hdeclared ▸ hcd
        parent_declared := hdeclared ▸ hpd, ne := hne
        free := fun c p hc hp => by simpa [hc, hp] using hfree }

/-- An axiom of two classes takes the link that it asks for, and any other axiom links nothing. -/
theorem withLink_eq (hdeclared : o.classes.contains = d.declaresClass) (a : SubclassAxiom) :
    withLink d.resolver o a = (d.link? a).elim o o.linkFree := by
  by_cases htwo : ∃ subject superclass, a.classes = [subject, superclass]
  · obtain ⟨subject, superclass, hclasses⟩ := htwo
    rw [withLink_of_classes hclasses]
    by_cases htop : DenotesTop d.resolver superclass.present
    · have hlink : d.link? a = none := by
        refine Option.eq_none_iff_forall_ne_some.2 fun l hl => ?_
        obtain ⟨_, _, hclasses', -, -, hnot, -⟩ := link?_eq_some_iff.1 hl
        cases hclasses.symm.trans hclasses'
        exact hnot htop
      rw [attachParent_of_top htop, hlink]
      rfl
    · by_cases hable : ∃ child parent,
          Linkable d.resolver o subject.present superclass.present child parent
      · obtain ⟨child, parent, h⟩ := hable
        obtain ⟨hlink, hfree⟩ := (linkable_iff hdeclared hclasses htop).1 h
        rw [attachParent_of_linkable htop h, hlink, Option.elim_some, linkFree, if_pos hfree]
        rfl
      · obtain ⟨_, -, hattach⟩ := attachParent_of_not_linkable htop hable
        rw [hattach]
        cases hlink : d.link? a with
        | none => rfl
        | some l =>
          have htaken : ¬ ((o.find? l.1).bind (·.parent)).all (· = l.2) = true :=
            fun hfree => hable ⟨l.1, l.2, (linkable_iff hdeclared hclasses htop).2 ⟨hlink, hfree⟩⟩
          rw [Option.elim_some, linkFree, if_neg htaken]
  · have hlink : d.link? a = none := by
      refine Option.eq_none_iff_forall_ne_some.2 fun l hl => htwo ?_
      obtain ⟨subject, superclass, hclasses, -⟩ := link?_eq_some_iff.1 hl
      exact ⟨subject, superclass, hclasses⟩
    rw [hlink]
    unfold withLink SubclassAxiom.shape?
    grind

/-- The axioms of a document take the links that they ask for. -/
theorem foldl_withLink_eq (hdeclared : o.classes.contains = d.declaresClass)
    (as : List SubclassAxiom) :
    as.foldl (withLink d.resolver) o = (as.filterMap d.link?).foldl linkFree o := by
  induction as generalizing o with
  | nil => rfl
  | cons a as ih =>
    rw [List.foldl_cons, withLink_eq hdeclared, List.filterMap_cons]
    cases d.link? a with
    | none => exact ih hdeclared
    | some l => exact ih ((funext (contains_linkFree o l)).trans hdeclared)

/-- The child of a link is declared. -/
theorem declaresClass_of_mem_links {as : List SubclassAxiom} {l : String × String}
    (hl : l ∈ as.filterMap d.link?) : d.declaresClass l.1 = true := by
  obtain ⟨a, -, ha⟩ := List.mem_filterMap.1 hl
  obtain ⟨_, _, -, -, hdeclared, -⟩ := link?_eq_some_iff.1 ha
  exact hdeclared

/-- After some axioms of a document each class is linked as the first of its links says. -/
theorem hasLinks_described (root : String) (d : Document) (as : List SubclassAxiom) :
    (as.foldl (withLink d.resolver) (described root d)).HasLinks (as.filterMap d.link?) := by
  rw [foldl_withLink_eq (contains_described root d), ← List.nil_append (as.filterMap d.link?)]
  refine HasLinks.foldl_linkFree (fun k c hc => ?_) _ fun l hl => ?_
  · obtain ⟨name, comments, rfl⟩ := unlinked_described hc
    exact ⟨rfl, rfl⟩
  · rw [contains_described]
    exact declaresClass_of_mem_links hl

/-- What classes gain are no links. -/
theorem HasLinks.foldl_gain (h : o.HasLinks links) (gs : List Gain) :
    (gs.foldl gain o).HasLinks links := by
  induction gs generalizing o with
  | nil => exact h
  | cons g gs ih =>
    refine ih fun k c' hc' => ?_
    rw [gain, find?_modify] at hc'
    split at hc'
    · obtain ⟨c, hc, rfl⟩ := Option.map_eq_some_iff.1 hc'
      cases g <;> exact h k c hc
    · exact h k c' hc'

/-- An axiom that asks for a link gives no properties. -/
theorem gains_of_link {rv : Resolver} {l : String × String} (h : d.link? a = some l) (o : Ontology) :
    gains rv o a = [] := by
  obtain ⟨subject, superclass, hclasses, -⟩ := link?_eq_some_iff.1 h
  unfold gains SubclassAxiom.shape?
  rw [hclasses]

/-- A link has no effect behind another one of the same child. -/
theorem withLink_eq_self_of_linked (root : String) {as : List SubclassAxiom} {parentIri : String}
    (hlink : d.link? a = some (child, parentIri))
    (hbefore : ∃ b ∈ as, ∃ p, d.link? b = some (child, p)) :
    withLink d.resolver (as.foldl (withLink d.resolver) (described root d)) a =
      as.foldl (withLink d.resolver) (described root d) := by
  have hdeclared : (as.foldl (withLink d.resolver) (described root d)).classes.contains =
      d.declaresClass := by
    rw [foldl_withLink_eq (contains_described root d), contains_foldl_linkFree, contains_described]
  rw [withLink_eq hdeclared, hlink, Option.elim_some]
  obtain ⟨b, hb, p, hbp⟩ := hbefore
  refine (hasLinks_described root d as).linkFree_eq_self ?_ ?_ parentIri
  · rw [hdeclared]
    exact declaresClass_of_mem_links (List.mem_filterMap.2 ⟨b, hb, hbp⟩)
  · rw [ne_eq, firstParent?_eq_none_iff, not_not]
    exact List.mem_map.2 ⟨_, List.mem_filterMap.2 ⟨b, hb, hbp⟩, rfl⟩

/-- In the ontology of a document the parent of a class is the one that its first link names, if there is one;
the children of a class are those that have it as their parent, in the order of their first links; and without
an axiom whose child is linked by an earlier axiom the ontology would be the same. -/
theorem links_ofDocument (root : String) (d : Document) :
    (∀ k, d.declaresClass k = true → ∃ c, (ofDocument root d).value.find? k = some c ∧
        c.parent = firstParent? d.links k ∧ c.children = firstChildren d.links k) ∧
      ∀ as a bs child parentIri, d.axioms = as ++ a :: bs → d.link? a = some (child, parentIri) →
        (∃ b ∈ as, ∃ p, d.link? b = some (child, p)) →
        (ofDocument root { d with axioms := as ++ bs }).value = (ofDocument root d).value := by
  constructor
  · intro k hk
    rw [← contains_described root d, contains_iff] at hk
    obtain ⟨b, hb⟩ := hk
    obtain ⟨c, hc⟩ := (edits_ofDocument root d).exists_find? hb
    have hlinks : (ofDocument root d).value.HasLinks d.links := by
      rw [value_ofDocument, foldl_attach]
      exact (hasLinks_described root d d.axioms).foldl_gain _
    exact ⟨c, hc, hlinks k c hc⟩
  · intro as a bs child parentIri haxioms hlink hbefore
    have hgains : gains d.resolver (described root d) a = [] := gains_of_link hlink _
    have hflatMap : (as ++ a :: bs).flatMap (gains d.resolver (described root d)) =
        (as ++ bs).flatMap (gains d.resolver (described root d)) := by
      rw [List.flatMap_append, List.flatMap_cons, hgains, List.nil_append, List.flatMap_append]
    have hfoldl : (as ++ a :: bs).foldl (withLink d.resolver) (described root d) =
        (as ++ bs).foldl (withLink d.resolver) (described root d) := by
      rw [List.foldl_append, List.foldl_cons, withLink_eq_self_of_linked root hlink hbefore,
        List.foldl_append]
    -- without the axiom the document resolves its references alike and starts from the same classes
    calc (ofDocument root { d with axioms := as ++ bs }).value
        = (as ++ bs).foldl (fun o a => (attach d.resolver o a).value) (described root d) :=
          value_ofDocument root { d with axioms := as ++ bs }
      _ = ((as ++ bs).flatMap (gains d.resolver (described root d))).foldl gain
            ((as ++ bs).foldl (withLink d.resolver) (described root d)) := foldl_attach _ _
      _ = ((as ++ a :: bs).flatMap (gains d.resolver (described root d))).foldl gain
            ((as ++ a :: bs).foldl (withLink d.resolver) (described root d)) := by
          rw [hflatMap, hfoldl]
      _ = (ofDocument root d).value := by rw [← foldl_attach, ← haxioms, ← value_ofDocument]

/-- A document that names a class as its own parent, names two parents of it, and the top class as another's. -/
def manyParents : Document where
  declarations := ["urn:A", "urn:B", "urn:C"].map fun iri => { class? := some { iri := some iri } }
  axioms := [("urn:A", "urn:A"), ("urn:A", "urn:B"), ("urn:B", "owl:Thing"), ("urn:A", "urn:C"),
    ("urn:C", "urn:B"), ("urn:A", "urn:B")].map fun l =>
      { classes := [{ iri := some l.1 }, { iri := some l.2 }] }

example : manyParents.links =
    [("urn:A", "urn:B"), ("urn:A", "urn:C"), ("urn:C", "urn:B"), ("urn:A", "urn:B")] ∧
      ((ofDocument "" manyParents).value.find? "urn:A").map (·.parent) = some (some "urn:B") ∧
      ((ofDocument "" manyParents).value.find? "urn:B").map (·.children) =
        some ["urn:A", "urn:C"] := by
  decide

end Ontology

end OntologySchema
