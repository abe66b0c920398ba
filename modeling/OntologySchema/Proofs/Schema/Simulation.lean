import OntologySchema.Proofs.Hierarchy.Resemblance
import OntologySchema.Proofs.Schema.Messages

/-!
# Two schemas side by side

The schemas of two ontologies that resemble each other, or of one ontology with different options, are made
in the same steps. If each item that is drafted for the one is drafted alike for the other, with the same
shape and the same key, then the numbers are the same too, and the messages come out as the drafts do. How
drafts, options and comments of the two are related is left open (`F`, `O`, `K`): they may be equal, or
equal but for something, or anything.
-/

namespace OntologySchema

/-- The drafts have the same shape and key, and `F` relates their fields, however they are numbered. -/
structure Draft.Like (F : Field → Field → Prop) (d d' : Draft) : Prop where
  shape_eq : d'.shape = d.shape
  key_eq : d'.key = d.key
  field : ∀ n, F (d.numbered n) (d'.numbered n)

/-- The bodies are of one kind; `F` relates their fields, and `O` their options. -/
inductive MessageBody.Like (F : Field → Field → Prop)
    (O : List MessageOption → List MessageOption → Prop) : MessageBody → MessageBody → Prop
  | union {variants variants'} (h : List.Forall₂ F variants variants') :
      Like F O (.union variants) (.union variants')
  | record {options options' fields fields'} (ho : O options options')
      (h : List.Forall₂ F fields fields') : Like F O (.record options fields) (.record options' fields')

/-- The messages have the same name and bodies of one kind; `K` relates their comments. -/
structure Message.Like (F : Field → Field → Prop) (O : List MessageOption → List MessageOption → Prop)
    (K : List String → List String → Prop) (m m' : Message) : Prop where
  name_eq : m'.name = m.name
  comments : K m.comments m'.comments
  body : m.body.Like F O m'.body

/-- Messages that are alike in all they have are equal. -/
theorem Message.Like.eq {m m' : Message} (h : Message.Like Eq Eq Eq m m') : m = m' := by
  obtain ⟨name, comments, body⟩ := m
  obtain ⟨name', comments', body'⟩ := m'
  obtain ⟨hname, hcomments, hbody⟩ := h
  obtain rfl : name' = name := hname
  obtain rfl : comments = comments' := hcomments
  cases hbody with
  | union h => rw [List.forall₂_eq_eq_eq] at h; rw [h]
  | record ho h => rw [List.forall₂_eq_eq_eq] at h; rw [ho, h]

/-- A data property without its comment. -/
def DataProperty.uncommented (p : DataProperty) : DataProperty := { p with comment := none }

/-- An object property without its comment. -/
def ObjectProperty.uncommented (p : ObjectProperty) : ObjectProperty := { p with comment := none }

namespace Schema

open Attempt Ontology

variable {R : OntClass → OntClass → Prop} {F : Field → Field → Prop}
variable {O : List MessageOption → List MessageOption → Prop} {K : List String → List String → Prop}
variable {s s' : SchemaOptions} {o o' : Ontology} {c c' : OntClass} {α α' : Type}

/-- Each item and its counterpart are drafted alike. -/
def DraftedAlike (F : Field → Field → Prop) (draft : α → Attempt HierarchyError (Option Draft))
    (draft' : α' → Attempt HierarchyError (Option Draft)) : List α → List α' → Prop :=
  List.Forall₂ fun i i' => Alike (Option.Rel (Draft.Like F)) (draft i) (draft' i')

/-- What is drafted alike is numbered alike. -/
theorem numberAll_alike {message : String} {draft : α → Attempt HierarchyError (Option Draft)}
    {draft' : α' → Attempt HierarchyError (Option Draft)} {items : List α} {items' : List α'}
    (h : DraftedAlike F draft draft' items items') : ∀ numbering : Numbering,
      Alike (fun x x' => List.Forall₂ F x.1 x'.1 ∧ x'.2 = x.2)
        (numberAll message draft items numbering) (numberAll message draft' items' numbering) := by
  induction h with
  | nil => exact fun numbering => .pure ⟨.nil, rfl⟩
  | cons hi _ ih =>
    intro numbering
    rw [numberAll, numberAll]
    refine hi.mapError.bind fun d? d?' _ _ hd => ?_
    cases hd with
    | none => exact ih numbering
    | some hd =>
      dsimp only
      rw [hd.shape_eq, hd.key_eq]
      refine (Alike.refl (R := Eq) _ fun _ => rfl).bind fun x x' _ _ hx => ?_
      subst hx
      exact (ih x.2).bind fun _ _ _ _ hrest => .pure ⟨.cons (hd.field x.1) hrest.1, hrest.2⟩

/-- What the record of a class is put together from is alike for two classes. -/
structure PartsAlike (F : Field → Field → Prop) (O : List MessageOption → List MessageOption → Prop)
    (s s' : SchemaOptions) (o o' : Ontology) (c c' : OntClass) : Prop where
  options : ∀ names, (o.typeChain c.iri).result = .ok names →
    Alike O (messageOptions s o c names) (messageOptions s' o' c' names)
  data : ∀ names,
    Alike (fun data data' => DraftedAlike F (dataDraft s o c names) (dataDraft s' o' c' names)
        (data.mergeSort dataBefore) (data'.mergeSort dataBefore))
      (o.allDataProperties c.iri) (o'.allDataProperties c'.iri)
  object : ∀ names,
    Alike (fun object object' => DraftedAlike F (objectDraft s o names) (objectDraft s' o' names)
        (object.mergeSort objectBefore) (object'.mergeSort objectBefore))
      (o.allObjectProperties c.iri) (o'.allObjectProperties c'.iri)

/-! ### Drafts and options in ontologies that resemble each other -/

/-- Data properties that differ at most in their comments are drafted alike, if the fields are, whatever
else these are made of. -/
theorem dataDraft_alike (h : Resembles R o o') {p p' : DataProperty} {names : List String}
    (hp : p'.uncommented = p.uncommented)
    (hF : ∀ shape number options, F ⟨shape, number, commentLines p.comment, options⟩
      ⟨shape, number, commentLines p'.comment, options⟩) :
    Alike (Option.Rel (Draft.Like F)) (dataDraft s o c names p) (dataDraft s o' c' names p') := by
  obtain ⟨iri, type, name, comment, owner⟩ := p
  obtain ⟨iri', type', name', comment', owner'⟩ := p'
  cases hp
  unfold dataDraft semanticOptions
  rw [h.prefixes_eq]
  split
  · exact .ok rfl rfl .none
  · exact .pure (.some ⟨rfl, rfl, fun n => hF _ n _⟩)

theorem objectDraft_alike (h : Resembles R o o') {p p' : ObjectProperty} {names : List String}
    (hp : p'.uncommented = p.uncommented)
    (hF : ∀ shape number options, F ⟨shape, number, commentLines p.comment, options⟩
      ⟨shape, number, commentLines p'.comment, options⟩) :
    Alike (Option.Rel (Draft.Like F)) (objectDraft s o names p) (objectDraft s o' names p') := by
  obtain ⟨iri, name, owner, target, targetName, comment⟩ := p
  obtain ⟨iri', name', owner', target', targetName', comment'⟩ := p'
  cases hp
  unfold objectDraft semanticOptions
  rw [h.prefixes_eq]
  split
  · exact .pure .none
  · refine (h.isAtOrBelowRoot target).bind fun below below' _ _ hbelow => ?_
    subst hbelow
    exact .pure (.some ⟨rfl, rfl, fun n => hF _ n _⟩)

theorem messageOptions_alike (h : Resembles R o o') (hc : R c c') (names : List String) :
    Alike Eq (messageOptions s o c names) (messageOptions s o' c' names) := by
  unfold messageOptions
  rw [(h.place hc).iri_eq, h.prefixes_eq]
  split
  · refine (h.parentIris c.iri).bind fun parents parents' _ _ hparents => ?_
    subst hparents
    exact .pure rfl
  · exact .pure rfl

/-! ### Messages -/

theorem record_alike (h : Resembles R o o') (hs : s'.hashedNumbers = s.hashedNumbers) (hc : R c c')
    (hparts : PartsAlike F O s s' o o' c c') :
    Alike (MessageBody.Like F O) (record s o c) (record s' o' c') := by
  have hplace := h.place hc
  have hchain : Alike Eq (o.typeChain c.iri) (o'.typeChain c'.iri) := by
    rw [hplace.iri_eq]
    exact h.typeChain c.iri
  unfold record
  rw [hplace.name_eq, hs]
  refine hchain.mapError.bind fun names _ hnames _ heq => ?_
  subst heq
  rw [result_mapError_eq_ok] at hnames
  refine (hparts.options names hnames).mapError.bind fun options options' _ _ hoptions => ?_
  refine (hparts.data names).mapError.bind fun data data' _ _ hdata => ?_
  refine (numberAll_alike hdata _).bind fun x x' _ _ hx => ?_
  refine (hparts.object names).mapError.bind fun object object' _ _ hobject => ?_
  dsimp only
  rw [hx.2]
  refine (numberAll_alike hobject _).bind fun y y' _ _ hy => ?_
  exact .pure (.record hoptions (List.rel_append hx.1 hy.1))

theorem union_alike (h : Resembles R o o') (hs : s'.hashedNumbers = s.hashedNumbers)
    (hF : ∀ shape number, F { shape, number } { shape, number }) (hc : R c c') :
    Alike (MessageBody.Like F O) (union s o c) (union s' o' c') := by
  have hplace := h.place hc
  have hvariant : ∀ {leaf leaf' : OntClass}, R leaf leaf' →
      Alike (Option.Rel (Draft.Like F)) (variantDraft o leaf) (variantDraft o' leaf') := by
    intro leaf leaf' hleaf
    unfold variantDraft
    rw [(h.place hleaf).iri_eq, (h.place hleaf).name_eq]
    refine (h.typeChain leaf.iri).bind fun names _ _ _ heq => .pure (.some ?_)
    subst heq
    exact ⟨rfl, rfl, fun n => hF _ n⟩
  unfold union
  rw [hplace.name_eq, hs, hplace.iri_eq]
  refine (h.leaves c.iri).mapError.bind fun leaves leaves' _ _ hleaves => ?_
  refine Alike.bind (R := fun _ _ => True) (.ok rfl rfl trivial) fun _ _ _ _ _ => ?_
  refine (numberAll_alike (hleaves.imp fun _ _ => hvariant) _).bind fun x x' _ _ hx => ?_
  exact .pure (.union hx.1)

/-- Messages of counterparts are alike. -/
theorem messageOf_alike (h : Resembles R o o') (hs : s'.hashedNumbers = s.hashedNumbers)
    (hF : ∀ shape number, F { shape, number } { shape, number }) (hc : R c c')
    (hcomments : K (c.comments.flatMap Text.lines) (c'.comments.flatMap Text.lines))
    (hparts : c.children = [] → PartsAlike F O s s' o o' c c') :
    Alike (Message.Like F O K) (messageOf s o c) (messageOf s' o' c') := by
  have hplace := h.place hc
  rw [messageOf_eq, messageOf_eq, hplace.isAbstract_eq]
  refine Alike.bind (R := MessageBody.Like F O) ?_ fun body body' _ _ hbody =>
    .pure ⟨hplace.name_eq, hcomments, hbody⟩
  by_cases habstract : c.isAbstract = true
  · rw [if_pos habstract, if_pos habstract]
    exact union_alike h hs hF hc
  · rw [if_neg habstract, if_neg habstract]
    refine record_alike h hs hc (hparts ?_)
    by_contra hchildren
    exact habstract (isAbstract_iff.2 hchildren)

/-- Schemas are alike if the messages of counterparts are. -/
theorem ofOntology_alike {M : Message → Message → Prop} (h : Resembles R o o')
    (hM : ∀ c ∈ o.classes.values, ∀ c' ∈ o'.classes.values, R c c' →
      Alike M (messageOf s o c) (messageOf s' o' c')) :
    Alike (fun schema schema' => List.Forall₂ M schema.messages schema'.messages)
      (ofOntology s o) (ofOntology s' o') := by
  unfold ofOntology
  refine (Alike.mapM (forall₂_imp_of_mem h.values hM)).bind fun messages messages' _ _ hm => ?_
  exact Alike.bind (R := fun _ _ => True) (.ok rfl rfl trivial) fun _ _ _ _ _ => .pure hm

/-- Schemas are equal if the messages of counterparts are. -/
theorem ofOntology_alike_eq (h : Resembles R o o')
    (hM : ∀ c ∈ o.classes.values, ∀ c' ∈ o'.classes.values, R c c' →
      Alike Eq (messageOf s o c) (messageOf s o' c')) :
    Alike Eq (ofOntology s o) (ofOntology s o') := by
  refine (ofOntology_alike h hM).imp fun schema schema' hok hok' hmessages => ?_
  obtain ⟨-, hheader, hpreamble⟩ := ofOntology_eq_ok_iff.1 hok
  obtain ⟨-, hheader', hpreamble'⟩ := ofOntology_eq_ok_iff.1 hok'
  rw [List.forall₂_eq_eq_eq] at hmessages
  obtain ⟨header, preamble, messages⟩ := schema
  obtain ⟨header', preamble', messages'⟩ := schema'
  simp_all [h.prefixes_eq]

end Schema

end OntologySchema
