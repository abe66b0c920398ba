import OntologySchema.Proofs.Ontology.Axioms
import OntologySchema.Proofs.Ontology.WellFormed

/-!
# Nothing is lost silently

The third pass leaves out what it cannot use, and says so. Each restriction of a declared class either gives
the class a property or causes one warning (`Outcome`), an axiom whose subject was not declared causes one
warning, and an axiom of two classes links them, is about the top class, or causes one warning. No step does
half of its work, and none says anything else (`attach_accounted`).

What becomes of a restriction depends on names only, so that the outcomes of the restrictions of one axiom
can be told from the ontology before the first of them (`foldlM_attach_eq`).
-/

namespace OntologySchema

/-- The warnings among the events of a computation. -/
def Logged.warnings {α : Type} (x : Logged α) : List Log.Event :=
  x.events.filter fun e => e.level = .warn

/-- A property and a datatype are named. -/
def DataSome.Complete (s : DataSome) : Prop :=
  s.property.present.identifier? ≠ none ∧ ∃ r ∈ s.datatype?, r.present.identifier? ≠ none

/-- A property is named. -/
def DataValue.Complete (s : DataValue) : Prop := s.property.present.identifier? ≠ none

/-- A property and a declared class are named. -/
def ObjectSome.Complete (rv : Resolver) (o : Ontology) (s : ObjectSome) : Prop :=
  s.property.present.identifier? ≠ none ∧
    ∃ iri ∈ rv.canonical? s.target.present, o.classes.contains iri = true

/-- A property and an individual are named. -/
def ObjectValue.Complete (s : ObjectValue) : Prop :=
  s.property.present.identifier? ≠ none ∧ s.individual.present.identifier? ≠ none

namespace Ontology

variable {rv : Resolver} {o o' : Ontology}

/-! ### Outcomes of restrictions -/

/-- What becomes of a restriction: the property that it gives, or the event that says why there is none. -/
abbrev Outcome : Type := Except Log.Event Gain

namespace Outcome

/-- The ontology after an outcome, with what was said. -/
def logged (o : Ontology) : Outcome → Logged Ontology
  | .ok g => ⟨o.gain g, []⟩
  | .error e => ⟨o, [e]⟩

/-- The event, if there is one. -/
def event? : Outcome → Option Log.Event
  | .ok _ => none
  | .error e => some e

/-- A complete restriction gives its property; any other is warned of. -/
inductive Of {α : Type} (complete : α → Prop) (gain? : α → Option Gain) (r : α) : Outcome → Prop
  | gained {g} (hr : complete r) (hg : gain? r = some g) : Of complete gain? r (.ok g)
  | warned {e} (hr : ¬ complete r) (he : e.level = .warn) : Of complete gain? r (.error e)

/-- Every outcome is a property or an event. -/
theorem length_add_length (outcomes : List Outcome) :
    (outcomes.filterMap Except.toOption).length + (outcomes.filterMap event?).length =
      outcomes.length := by
  induction outcomes with
  | nil => rfl
  | cons outcome outcomes ih =>
    cases outcome <;>
      simp only [List.filterMap_cons, Except.toOption, event?, List.length_cons] <;> omega

end Outcome

/-- Restrictions of one kind are taken in by their outcomes, and these depend on names only. -/
structure TakesIn {α : Type} (attach : String → Ontology → α → Logged Ontology)
    (complete : Ontology → α → Prop) (gain? : String → Ontology → α → Option Gain) : Prop
    extends Gives attach gain? where
  outcome : ∀ owner o r, ∃ outcome, Outcome.Of (complete o) (gain? owner o) r outcome ∧
    attach owner o r = outcome.logged o
  complete_eq : ∀ {o o'}, SameNames o o' → complete o' = complete o
  owner_eq : ∀ {owner o r g}, gain? owner o r = some g → g.owner = owner

/-! ### What is looked up on the way -/

theorem canonical_of_some {r : Reference} {iri : String} (h : rv.canonical? r = some iri) :
    canonical rv r = pure (some iri) := by
  rw [canonical, h]

theorem canonical_of_none {r : Reference} (h : rv.canonical? r = none) :
    ∃ e : Log.Event, e.level = .warn ∧ canonical rv r = ⟨none, [e]⟩ := by
  rw [canonical, h]
  exact ⟨_, rfl, rfl⟩

theorem declaredClass_of_declared {r : Reference} {iri : String} (h : rv.canonical? r = some iri)
    (hin : o.classes.contains iri = true) : o.declaredClass rv r = pure (some iri) := by
  rw [declaredClass, canonical_of_some h, pure_bind]
  exact if_pos hin

theorem declaredClass_of_undeclared {r : Reference}
    (h : (rv.canonical? r).filter o.classes.contains = none) :
    ∃ e : Log.Event, e.level = .warn ∧ o.declaredClass rv r = ⟨none, [e]⟩ := by
  unfold declaredClass
  cases hr : rv.canonical? r with
  | none =>
    obtain ⟨e, he, hcanonical⟩ := canonical_of_none hr
    rw [hcanonical]
    exact ⟨e, he, rfl⟩
  | some iri =>
    have hin : ¬ o.classes.contains iri = true := by simpa [hr] using h
    rw [canonical_of_some hr, pure_bind]
    dsimp only
    rw [if_neg hin]
    exact ⟨_, rfl, rfl⟩

theorem datatypeName?_eq_none_iff {r : Reference} :
    datatypeName? rv r = none ↔ r.present.identifier? = none := by
  unfold datatypeName? Reference.identifier?
  cases r.present.abbreviated <;> cases r.present.iri <;> simp

/-! ### Restrictions of the four kinds -/

theorem takesIn_dataSome (rv : Resolver) :
    TakesIn (attachDataSome rv) (fun _ => DataSome.Complete) (dataSomeGain? rv) where
  toGives := gives_dataSome rv
  outcome := fun owner o s => by
    unfold attachDataSome
    dsimp only
    cases hp : s.property.present.identifier? with
    | none => exact ⟨.error _, .warned (fun h => h.1 hp) rfl, rfl⟩
    | some identifier =>
      cases hd : s.datatype?.bind (datatypeName? rv) with
      | none =>
        refine ⟨.error _, .warned (fun h => ?_) rfl, rfl⟩
        obtain ⟨-, r, hr, hname⟩ := h
        rw [hr, Option.bind_some, datatypeName?_eq_none_iff] at hd
        exact hname hd
      | some datatype =>
        obtain ⟨r, hr, hname⟩ := Option.bind_eq_some_iff.1 hd
        refine ⟨.ok (.data (o.dataProperty rv owner s.property.present identifier datatype)),
          .gained ⟨by simp [hp], r, hr, fun h => ?_⟩ (by simp [dataSomeGain?, hp, hd]), rfl⟩
        rw [datatypeName?_eq_none_iff.2 h] at hname
        cases hname
  complete_eq := fun _ => rfl
  owner_eq := fun h => by
    obtain ⟨identifier, -, h⟩ := Option.bind_eq_some_iff.1 h
    obtain ⟨datatype, -, rfl⟩ := Option.map_eq_some_iff.1 h
    rfl

theorem takesIn_dataValue (rv : Resolver) :
    TakesIn (attachDataValue rv) (fun _ => DataValue.Complete) (dataValueGain? rv) where
  toGives := gives_dataValue rv
  outcome := fun owner o s => by
    unfold attachDataValue
    dsimp only
    cases hp : s.property.present.identifier? with
    | none => exact ⟨.error _, .warned (fun h => h hp) rfl, rfl⟩
    | some identifier =>
      exact ⟨.ok (.data (o.dataProperty rv owner s.property.present identifier
          (Text.trim s.literal))),
        .gained (by simp [DataValue.Complete, hp]) (by simp [dataValueGain?, hp]), rfl⟩
  complete_eq := fun _ => rfl
  owner_eq := fun h => by
    obtain ⟨identifier, -, rfl⟩ := Option.map_eq_some_iff.1 h
    rfl

theorem takesIn_objectSome (rv : Resolver) :
    TakesIn (attachObjectSome rv) (ObjectSome.Complete rv) (objectSomeGain? rv) where
  toGives := gives_objectSome rv
  outcome := fun owner o s => by
    unfold attachObjectSome
    dsimp only
    cases hp : s.property.present.identifier? with
    | none => exact ⟨.error _, .warned (fun h => h.1 hp) rfl, rfl⟩
    | some identifier =>
      dsimp only
      cases ht : rv.canonical? s.target.present with
      | none =>
        obtain ⟨e, he, hcanonical⟩ := canonical_of_none ht
        rw [hcanonical]
        refine ⟨.error e, .warned (fun h => ?_) he, rfl⟩
        obtain ⟨-, iri, hiri, -⟩ := h
        cases ht.symm.trans hiri
      | some target =>
        rw [canonical_of_some ht, pure_bind]
        dsimp only
        cases hf : o.find? target with
        | none =>
          refine ⟨.error _, .warned (fun h => ?_) rfl, rfl⟩
          obtain ⟨-, iri, hiri, hin⟩ := h
          obtain rfl : target = iri := Option.some.inj (ht.symm.trans hiri)
          obtain ⟨c, hc⟩ := contains_iff.1 hin
          cases hf.symm.trans hc
        | some c =>
          exact ⟨.ok (.object
              { iri := identifier
                name := o.propertyName rv s.property.present
                owner := owner
                target := target
                targetName := c.name
                comment := o.propertyComment? rv s.property.present }),
            .gained ⟨by simp [hp], target, ht, contains_iff.2 ⟨c, hf⟩⟩
              (by simp [objectSomeGain?, hp, ht, hf]), rfl⟩
  complete_eq := fun h => by
    funext s
    simp only [ObjectSome.Complete, h.contains_eq]
  owner_eq := fun h => by
    obtain ⟨identifier, -, h⟩ := Option.bind_eq_some_iff.1 h
    obtain ⟨target, -, h⟩ := Option.bind_eq_some_iff.1 h
    obtain ⟨targetName, -, rfl⟩ := Option.map_eq_some_iff.1 h
    rfl

theorem takesIn_objectValue (rv : Resolver) :
    TakesIn (attachObjectValue rv) (fun _ => ObjectValue.Complete) (objectValueGain? rv) where
  toGives := gives_objectValue rv
  outcome := fun owner o s => by
    unfold attachObjectValue
    dsimp only
    cases hp : s.property.present.identifier? with
    | none => exact ⟨.error _, .warned (fun h => h.1 hp) rfl, rfl⟩
    | some identifier =>
      cases hi : s.individual.present.identifier? with
      | none => exact ⟨.error _, .warned (fun h => h.2 hi) rfl, rfl⟩
      | some individual =>
        exact ⟨.ok (.data (o.dataProperty rv owner s.property.present identifier
            (((o.individual? (rv.lookupKeys s.individual.present)).bind (·.type)).getD individual))),
          .gained ⟨by simp [hp], by simp [hi]⟩ (by simp [objectValueGain?, hp, hi]), rfl⟩
  complete_eq := fun _ => rfl
  owner_eq := fun h => by
    obtain ⟨identifier, -, h⟩ := Option.bind_eq_some_iff.1 h
    obtain ⟨individual, -, rfl⟩ := Option.map_eq_some_iff.1 h
    rfl

/-! ### The restrictions of an axiom -/

section Restrictions

variable {α : Type} {attach : String → Ontology → α → Logged Ontology}
  {complete : Ontology → α → Prop} {gain? : String → Ontology → α → Option Gain}

theorem sameNames_logged (o : Ontology) (outcome : Outcome) :
    SameNames o (outcome.logged o).value := by
  cases outcome with
  | ok g => exact sameNames_gain o g
  | error e => exact .refl o

/-- Restrictions are taken in one after the other, each by its outcome. -/
theorem foldlM_attach_eq (h : TakesIn attach complete gain?) (owner : String) (rs : List α)
    (o : Ontology) : ∃ outcomes,
      List.Forall₂ (Outcome.Of (complete o) (gain? owner o)) rs outcomes ∧
        rs.foldlM (attach owner) o =
          ⟨(outcomes.filterMap Except.toOption).foldl gain o,
            outcomes.filterMap Outcome.event?⟩ := by
  induction rs generalizing o with
  | nil => exact ⟨[], .nil, rfl⟩
  | cons r rs ih =>
    obtain ⟨outcome, hof, hattach⟩ := h.outcome owner o r
    obtain ⟨outcomes, hofs, hfold⟩ := ih (outcome.logged o).value
    -- the first outcome changes no name, so the others are what they were before it
    rw [h.complete_eq (sameNames_logged o outcome), h.names (sameNames_logged o outcome)] at hofs
    refine ⟨outcome :: outcomes, .cons hof hofs, ?_⟩
    rw [List.foldlM_cons, hattach]
    apply Logged.ext
    · rw [Logged.value_bind, hfold]
      cases outcome <;> rfl
    · rw [Logged.events_bind, hfold]
      cases outcome <;> rfl

theorem modify_modify (o : Ontology) (k : String) (f g : OntClass → OntClass) :
    (o.modify k f).modify k g = o.modify k fun c => g (f c) := by
  unfold modify
  congr 1
  apply Table.ext
  simp only [Table.modify, List.map_map]
  refine List.map_congr_left fun e _ => ?_
  by_cases he : e.1 = k <;> simp [he]

/-- What one class gains changes this class only. -/
theorem foldl_gain_eq_modify {owner : String} {gs : List Gain} (h : ∀ g ∈ gs, g.owner = owner)
    (o : Ontology) : gs.foldl gain o = o.modify owner fun c => gs.foldl OntClass.gain c := by
  induction gs generalizing o with
  | nil => simp [modify, Table.modify]
  | cons g gs ih =>
    obtain ⟨rfl, h⟩ := List.forall_mem_cons.1 h
    rw [List.foldl_cons, ih h, gain, modify_modify]
    rfl

/-- The restrictions of a class are accounted for. If the class was not declared there is one warning. If it
was, each restriction has its outcome, the properties are appended to the class in the order of the
restrictions, what is warned of is left out, and nothing else changes. -/
structure RestrictionsAccounted (rv : Resolver) (o : Ontology) (subject : Reference)
    (complete : α → Prop) (gain? : String → α → Option Gain) (rs : List α) (x : Logged Ontology) :
    Prop where
  undeclared : (∀ owner, rv.canonical? subject.present = some owner →
      ¬ o.classes.contains owner = true) → x.value = o ∧ x.warnings.length = 1
  declared : ∀ owner, rv.canonical? subject.present = some owner → o.classes.contains owner = true →
    ∃ outcomes gained,
      List.Forall₂ (Outcome.Of complete (gain? owner)) rs outcomes ∧
      outcomes.filterMap Except.toOption = gained ∧
      x.value = o.modify owner (fun c => { c with
        dataProperties := c.dataProperties ++ gained.filterMap Gain.data?
        objectProperties := c.objectProperties ++ gained.filterMap Gain.object? }) ∧
      x.warnings = outcomes.filterMap Outcome.event? ∧
      gained.length + x.warnings.length = rs.length

theorem Outcome.gained_of_mem {complete : α → Prop} {gain? : α → Option Gain} {rs : List α}
    {outcomes : List Outcome} (h : List.Forall₂ (Outcome.Of complete gain?) rs outcomes) {g : Gain}
    (hg : g ∈ outcomes.filterMap Except.toOption) : ∃ r ∈ rs, gain? r = some g := by
  obtain ⟨outcome, hmem, hoption⟩ := List.mem_filterMap.1 hg
  obtain ⟨r, hr, hof⟩ := Attempt.exists_of_forall₂ h.flip hmem
  cases hof with
  | gained _ hgain => exact ⟨r, hr, hgain.trans hoption⟩
  | warned => cases hoption

theorem Outcome.warning_of_mem {complete : α → Prop} {gain? : α → Option Gain} {rs : List α}
    {outcomes : List Outcome} (h : List.Forall₂ (Outcome.Of complete gain?) rs outcomes)
    {e : Log.Event} (he : e ∈ outcomes.filterMap event?) : e.level = .warn := by
  obtain ⟨outcome, hmem, hevent⟩ := List.mem_filterMap.1 he
  obtain ⟨r, -, hof⟩ := Attempt.exists_of_forall₂ h.flip hmem
  cases hof with
  | gained => cases hevent
  | warned _ hwarn => cases hevent; exact hwarn

/-- The restrictions of an axiom are accounted for. -/
theorem attachAll_accounted (h : TakesIn attach complete gain?) (o : Ontology) (subject : Reference)
    (rs : List α) :
    RestrictionsAccounted rv o subject (complete o) (fun owner => gain? owner o) rs
      (o.attachAll rv subject attach rs) where
  undeclared := fun hnone => by
    have hfilter : (rv.canonical? subject.present).filter o.classes.contains = none :=
      Option.filter_eq_none_iff.2 hnone
    obtain ⟨e, he, hdeclared⟩ := declaredClass_of_undeclared hfilter
    rw [attachAll, hdeclared]
    refine ⟨rfl, ?_⟩
    simp [Logged.warnings, he]
  declared := fun owner howner hin => by
    obtain ⟨outcomes, hofs, hfold⟩ := foldlM_attach_eq h owner rs o
    have howned : ∀ g ∈ outcomes.filterMap Except.toOption, g.owner = owner := by
      intro g hg
      obtain ⟨r, -, hr⟩ := Outcome.gained_of_mem hofs hg
      exact h.owner_eq hr
    have hwarnings : (o.attachAll rv subject attach rs).warnings =
        outcomes.filterMap Outcome.event? := by
      rw [attachAll, declaredClass_of_declared howner hin, pure_bind]
      dsimp only
      rw [hfold, Logged.warnings, List.filter_eq_self]
      intro e he
      simp [Outcome.warning_of_mem hofs he]
    refine ⟨outcomes, _, hofs, rfl, ?_, hwarnings, ?_⟩
    · rw [attachAll, declaredClass_of_declared howner hin, pure_bind]
      dsimp only
      rw [hfold, foldl_gain_eq_modify howned]
      simp only [OntClass.foldl_gain]
    · rw [hwarnings, Outcome.length_add_length, hofs.length_eq]

end Restrictions

/-! ### Links -/

/-- A reference denotes the top class, as it is written or as it is resolved. -/
def DenotesTop (rv : Resolver) (r : Reference) : Prop :=
  (∃ t ∈ r.identifier?, isTopClass t = true) ∨ ∃ t ∈ rv.canonical? r, isTopClass t = true

/-- The class that `subject` refers to, `child`, can have the one that `parent` refers to as its parent:
both are declared, they are two classes, and `child` has no other parent. -/
structure Linkable (rv : Resolver) (o : Ontology) (subject parent : Reference)
    (child parentIri : String) : Prop where
  child_eq : rv.canonical? subject = some child
  parent_eq : rv.canonical? parent = some parentIri
  child_declared : o.classes.contains child = true
  parent_declared : o.classes.contains parentIri = true
  ne : parentIri ≠ child
  free : ∀ c p, o.find? child = some c → c.parent = some p → p = parentIri

/-- Exactly one of three statements holds. -/
def ExactlyOne (p q r : Prop) : Prop := (p ∧ ¬ q ∧ ¬ r) ∨ (¬ p ∧ q ∧ ¬ r) ∨ (¬ p ∧ ¬ q ∧ r)

/-- An axiom of two classes is about the top class and does nothing, or it links its classes, or there is
one warning and nothing else. -/
def LinkAccounted (rv : Resolver) (o : Ontology) (subject parent : Reference) (x : Logged Ontology) :
    Prop :=
  ExactlyOne
    (DenotesTop rv parent ∧ x.value = o ∧ x.warnings = [])
    (¬ DenotesTop rv parent ∧ ∃ child parentIri, Linkable rv o subject parent child parentIri ∧
      (x.value.find? child).bind (·.parent) = some parentIri ∧
      (∃ d, x.value.find? parentIri = some d ∧ child ∈ d.children) ∧
      x.value = o.link child parentIri ∧ x.warnings = [])
    ((¬ DenotesTop rv parent ∧ ¬ ∃ child parentIri, Linkable rv o subject parent child parentIri) ∧
      x.value = o ∧ x.warnings.length = 1)

theorem attachParent_of_top {subject parent : Reference} (h : DenotesTop rv parent) :
    o.attachParent rv subject parent = pure o := by
  unfold attachParent
  by_cases hwritten : parent.identifier?.any isTopClass = true
  · rw [if_pos hwritten]
  · rcases h with ⟨t, ht, htop⟩ | ⟨t, ht, htop⟩
    · rw [Option.mem_def] at ht
      simp [ht, htop] at hwritten
    · rw [if_neg hwritten, canonical_of_some ht, pure_bind]
      exact if_pos htop

/-- Neither as it is written nor as it is resolved is the reference one of the spellings. -/
theorem not_isTopClass {r : Reference} (h : ¬ DenotesTop rv r) :
    ¬ r.identifier?.any isTopClass = true ∧
      ∀ {iri}, rv.canonical? r = some iri → ¬ isTopClass iri = true := by
  rw [Option.any_eq_true]
  exact ⟨fun ⟨t, ht, htop⟩ => h (.inl ⟨t, ht, htop⟩), fun hr htop => h (.inr ⟨_, hr, htop⟩)⟩

theorem attachParent_of_linkable {subject parent : Reference} {child parentIri : String}
    (htop : ¬ DenotesTop rv parent) (h : Linkable rv o subject parent child parentIri) :
    o.attachParent rv subject parent = pure (o.link child parentIri) := by
  obtain ⟨hwritten, hresolved⟩ := not_isTopClass htop
  have hfree : ((o.find? child).bind (·.parent)).filter (· ≠ parentIri) = none := by
    refine Option.filter_eq_none_iff.2 fun p hp => ?_
    obtain ⟨c, hc, hcp⟩ := Option.bind_eq_some_iff.1 hp
    simp [h.free c p hc hcp]
  unfold attachParent
  simp only [hwritten, canonical_of_some h.parent_eq, pure_bind, hresolved h.parent_eq,
    declaredClass_of_declared h.child_eq h.child_declared, h.parent_declared, h.ne, hfree,
    Bool.false_eq_true, Bool.not_true, if_false]

theorem attachParent_of_not_linkable {subject parent : Reference} (htop : ¬ DenotesTop rv parent)
    (h : ¬ ∃ child parentIri, Linkable rv o subject parent child parentIri) :
    ∃ e : Log.Event, e.level = .warn ∧ o.attachParent rv subject parent = ⟨o, [e]⟩ := by
  obtain ⟨hwritten, hresolved⟩ := not_isTopClass htop
  unfold attachParent
  rw [if_neg hwritten]
  cases hparent : rv.canonical? parent with
  | none =>
    obtain ⟨e, he, hcanonical⟩ := canonical_of_none hparent
    rw [hcanonical]
    exact ⟨e, he, rfl⟩
  | some parentIri =>
    rw [canonical_of_some hparent, pure_bind]
    dsimp only
    rw [if_neg (hresolved hparent)]
    cases hchild : (rv.canonical? subject).filter o.classes.contains with
    | none =>
      obtain ⟨e, he, hdeclared⟩ := declaredClass_of_undeclared hchild
      rw [hdeclared]
      exact ⟨e, he, rfl⟩
    | some child =>
      obtain ⟨hchild, hin⟩ := Option.filter_eq_some_iff.1 hchild
      rw [declaredClass_of_declared hchild hin, pure_bind]
      dsimp only
      split
      · exact ⟨_, rfl, rfl⟩
      · next hparentIn =>
        split
        · exact ⟨_, rfl, rfl⟩
        · next hne =>
          split
          · exact ⟨_, rfl, rfl⟩
          · next hfree =>
            refine absurd ⟨child, parentIri, hchild, hparent, hin, by simpa using hparentIn, hne, ?_⟩ h
            intro c p hc hp
            simpa [hc, hp] using hfree

theorem attachParent_accounted (o : Ontology) (subject parent : Reference) :
    LinkAccounted rv o subject parent (o.attachParent rv subject parent) := by
  by_cases htop : DenotesTop rv parent
  · rw [attachParent_of_top htop]
    exact .inl ⟨⟨htop, rfl, rfl⟩, fun h => h.1 htop, fun h => h.1.1 htop⟩
  · by_cases hlink : ∃ child parentIri, Linkable rv o subject parent child parentIri
    · obtain ⟨child, parentIri, h⟩ := hlink
      rw [attachParent_of_linkable htop h]
      obtain ⟨c, hc⟩ := contains_iff.1 h.child_declared
      obtain ⟨d, hd⟩ := contains_iff.1 h.parent_declared
      refine .inr (.inl ⟨fun h => htop h.1, ⟨htop, child, parentIri, h, ?_, ?_, rfl, rfl⟩,
        fun hrefused => hrefused.1.2 ⟨child, parentIri, h⟩⟩)
      · simp [find?_link, hc, linked]
      · refine ⟨_, by rw [Logged.value_pure, find?_link, hd]; rfl, ?_⟩
        exact mem_children_linked.2 (.inr ⟨rfl, rfl⟩)
    · obtain ⟨e, he, hattach⟩ := attachParent_of_not_linkable htop hlink
      rw [hattach]
      refine .inr (.inr ⟨fun h => htop h.1, ?_, ⟨htop, hlink⟩, rfl, by simp [Logged.warnings, he]⟩)
      rintro ⟨-, child, parentIri, h, -⟩
      exact hlink ⟨child, parentIri, h⟩

/-! ### Axioms -/

/-- What one step of the third pass does is accounted for, whatever the axiom looks like. -/
def Accounted (rv : Resolver) (o : Ontology) (a : SubclassAxiom) (x : Logged Ontology) : Prop :=
  match a.shape? with
  | none => x.value = o ∧ x.warnings = []
  | some (.subclass subject parent) => LinkAccounted rv o subject.present parent.present x
  | some (.dataSome subject rs) =>
    RestrictionsAccounted rv o subject DataSome.Complete (dataSomeGain? rv · o) rs x
  | some (.dataValue subject rs) =>
    RestrictionsAccounted rv o subject DataValue.Complete (dataValueGain? rv · o) rs x
  | some (.objectSome subject rs) =>
    RestrictionsAccounted rv o subject (ObjectSome.Complete rv o) (objectSomeGain? rv · o) rs x
  | some (.objectValue subject rs) =>
    RestrictionsAccounted rv o subject ObjectValue.Complete (objectValueGain? rv · o) rs x

/-- An axiom at any place of the third pass, whatever ontology has been made before it: a restriction that is
complete gives its class one property, any other causes one warning, a link is made whole or refused with one
warning, and nothing else changes. An axiom of no known shape does nothing and is not warned of. -/
theorem attach_accounted (rv : Resolver) (o : Ontology) (a : SubclassAxiom) :
    Accounted rv o a (attach rv o a) := by
  unfold Accounted attach
  cases a.shape? with
  | none => exact ⟨rfl, rfl⟩
  | some shape =>
    cases shape with
    | subclass subject parent => exact attachParent_accounted o _ _
    | dataSome subject rs => exact attachAll_accounted (takesIn_dataSome rv) o subject rs
    | dataValue subject rs => exact attachAll_accounted (takesIn_dataValue rv) o subject rs
    | objectSome subject rs => exact attachAll_accounted (takesIn_objectSome rv) o subject rs
    | objectValue subject rs => exact attachAll_accounted (takesIn_objectValue rv) o subject rs

end Ontology

end OntologySchema
