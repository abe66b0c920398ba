import OntologySchema.Proofs.Schema.Counting
import OntologySchema.Proofs.Schema.Simulation

/-!
# What the options of a schema change

The options say how fields are numbered, whether the schema repeats where its messages come from, and what
stands at the top. Nothing else hangs on them: which messages there are, which fields each has, with which
labels, types, names and comments, and whether there is a schema at all is up to the ontology, and so are
the numbers once it is settled how they are made (`options_confined`).

Two runs under different options are followed side by side. The one walk that only the full schema makes,
to the parents of a class, is made when the names of the class and its ancestors are known already, so it
has a result (`exists_messageOptions`); all else that the options change is carried along unread.
-/

namespace OntologySchema

/-- A field without its options. -/
def Field.plain (f : Field) : Field := { f with options := [] }

/-- A field without its options and its number. -/
def Field.unnumbered (f : Field) : Field := { f.plain with number := 0 }

theorem unnumbered_countedFrom (n : Nat) (fields : List Field) :
    (countedFrom n fields).map Field.unnumbered = fields.map Field.unnumbered := by
  induction fields generalizing n with
  | nil => rfl
  | cons f fields ih => rw [countedFrom, List.map_cons, List.map_cons, ih]; rfl

/-- A message without its options, and what `g` makes of its fields. -/
def Message.outline (g : Field → Field) (m : Message) : Message :=
  { m with
    body :=
      match m.body with
      | .union variants => .union (variants.map g)
      | .record _ fields => .record [] (fields.map g) }

theorem Message.outline_eq {g : Field → Field} {O : List MessageOption → List MessageOption → Prop}
    {m m' : Message} (h : Message.Like (fun f f' => g f = g f') O Eq m m') :
    m.outline g = m'.outline g := by
  obtain ⟨name, comments, body⟩ := m
  obtain ⟨name', comments', body'⟩ := m'
  obtain ⟨hname, hcomments, hbody⟩ := h
  obtain rfl : name' = name := hname
  obtain rfl : comments = comments' := hcomments
  cases hbody with
  | union h => simp only [outline, Attempt.forall₂_eq_iff.1 h]
  | record _ h => simp only [outline, Attempt.forall₂_eq_iff.1 h]

theorem Message.outline_counted (m : Message) :
    m.counted.outline Field.unnumbered = m.outline Field.unnumbered := by
  obtain ⟨name, comments, body⟩ := m
  cases body <;> simp only [counted, outline, unnumbered_countedFrom]

theorem Message.outline_unnumbered (m : Message) :
    (m.outline Field.plain).outline Field.unnumbered = m.outline Field.unnumbered := by
  obtain ⟨name, comments, body⟩ := m
  cases body <;> simp only [outline, List.map_map] <;> rfl

namespace Schema

open Attempt Ontology

variable {s s' : SchemaOptions} {o : Ontology} {c : OntClass} {names : List String}

/-- The messages of a schema without their options, and what `g` makes of their fields. -/
def outline (g : Field → Field) (schema : Schema) : List Message :=
  schema.messages.map (Message.outline g)

/-! ### One ontology, two sets of options -/

theorem dataDraft_alike_of_options (s s' : SchemaOptions) (o : Ontology) (c : OntClass) (names : List String)
    (p : DataProperty) : Alike (Option.Rel (Draft.Like fun f f' => f.plain = f'.plain))
      (dataDraft s o c names p) (dataDraft s' o c names p) := by
  unfold dataDraft
  split
  · exact .ok rfl rfl .none
  · exact .pure (.some ⟨rfl, rfl, fun _ => rfl⟩)

theorem objectDraft_alike_of_options (s s' : SchemaOptions) (o : Ontology) (names : List String)
    (p : ObjectProperty) : Alike (Option.Rel (Draft.Like fun f f' => f.plain = f'.plain))
      (objectDraft s o names p) (objectDraft s' o names p) := by
  unfold objectDraft
  split
  · exact .pure .none
  · refine (Alike.refl (R := Eq) _ fun _ => rfl).bind fun below below' _ _ hbelow => ?_
    subst hbelow
    exact .pure (.some ⟨rfl, rfl, fun _ => rfl⟩)

/-- Where the names of a class and its ancestors are known, the options of its message are known too. -/
theorem exists_messageOptions (s : SchemaOptions) (hnames : (o.typeChain c.iri).result = .ok names) :
    ∃ options, (messageOptions s o c names).result = .ok options := by
  obtain ⟨ancestors, hancestors, -⟩ := result_bind_eq_ok.1 hnames
  have hparents : (o.parentIris c.iri).result = .ok (ancestors.tail.map (·.iri)) :=
    result_bind_of_ok hancestors
  unfold messageOptions
  split
  · exact ⟨_, result_bind_of_ok hparents⟩
  · exact ⟨_, rfl⟩

theorem partsAlike (s s' : SchemaOptions) (o : Ontology) (c : OntClass) :
    PartsAlike (fun f f' => f.plain = f'.plain) (fun _ _ => True) s s' o o c c where
  options := fun names hnames => by
    obtain ⟨_, hoptions⟩ := exists_messageOptions s hnames
    obtain ⟨_, hoptions'⟩ := exists_messageOptions s' hnames
    exact .ok hoptions hoptions' trivial
  data := fun names => .refl _ fun _ =>
    List.forall₂_same.2 fun p _ => dataDraft_alike_of_options s s' o c names p
  object := fun names => .refl _ fun _ =>
    List.forall₂_same.2 fun p _ => objectDraft_alike_of_options s s' o names p

/-- With numbers made in the same way, one schema is the other but for its options. -/
theorem ofOntology_alike_plain (o : Ontology) (hs : s'.hashedNumbers = s.hashedNumbers) :
    Alike (fun schema schema' => schema'.outline Field.plain = schema.outline Field.plain)
      (ofOntology s o) (ofOntology s' o) := by
  have hmessage : ∀ c ∈ o.classes.values, ∀ c' ∈ o.classes.values, c = c' →
      Alike (fun m m' => m.outline Field.plain = m'.outline Field.plain)
        (messageOf s o c) (messageOf s' o c') := by
    intro c _ c' _ hc
    subst hc
    have hparts := partsAlike s s' o c
    have halike := messageOf_alike (F := fun f f' => f.plain = f'.plain) (K := Eq)
      (Resembles.refl o) hs (fun _ _ => rfl) rfl rfl fun _ => hparts
    exact halike.imp fun _ _ _ _ h => Message.outline_eq h
  refine (ofOntology_alike (Resembles.refl o) hmessage).imp fun schema schema' _ _ h => ?_
  exact (forall₂_eq_iff.1 h).symm

/-- Schemas that are equal but for options are equal but for options and numbers. -/
theorem outline_unnumbered_eq_of_plain {schema schema' : Schema}
    (h : schema'.outline Field.plain = schema.outline Field.plain) :
    schema'.outline Field.unnumbered = schema.outline Field.unnumbered := by
  have houtline : ∀ schema : Schema, schema.outline Field.unnumbered =
      (schema.outline Field.plain).map (Message.outline Field.unnumbered) := by
    intro schema
    rw [outline, outline, List.map_map]
    exact List.map_congr_left fun m _ => m.outline_unnumbered.symm
  rw [houtline, houtline, h]

/-- However the numbers of a schema are made, a counted schema has the same fields. -/
theorem outline_unnumbered_eq_of_counted {schema schema' : Schema}
    (hs : s'.hashedNumbers = false) (h : (ofOntology s o).result = .ok schema)
    (h' : (ofOntology s' o).result = .ok schema') :
    schema'.outline Field.unnumbered = schema.outline Field.unnumbered := by
  have halike : Alike _ (ofOntology s' o) (ofOntology s.ascending o) :=
    ofOntology_alike_plain o hs.symm
  obtain ⟨counted, hcounted, hplain⟩ := halike.exists_ok h'
  rw [← outline_unnumbered_eq_of_plain hplain]
  rw [result_ofOntology_ascending h] at hcounted
  split at hcounted
  · cases hcounted
    simp only [outline, Schema.counted, List.map_map]
    exact List.map_congr_left fun m _ => m.outline_counted
  · cases hcounted

/-- Under two sets of options that make numbers in the same way, an ontology has no schema for the same
reason, or has schemas with the same messages of the same fields: the names of messages, the labels, types,
names and numbers of fields and variants, and the comments, in their order, are all the same. Under options
that make numbers in different ways the schemas, if there are both, are equal but for the numbers. -/
theorem options_confined (s s' : SchemaOptions) (o : Ontology) :
    (s'.hashedNumbers = s.hashedNumbers →
        (∀ e, (ofOntology s o).result = .error e ↔ (ofOntology s' o).result = .error e) ∧
        ∀ schema schema', (ofOntology s o).result = .ok schema →
          (ofOntology s' o).result = .ok schema' →
            schema'.outline Field.plain = schema.outline Field.plain) ∧
      ∀ schema schema', (ofOntology s o).result = .ok schema →
        (ofOntology s' o).result = .ok schema' →
          schema'.outline Field.unnumbered = schema.outline Field.unnumbered := by
  refine ⟨fun hs => ?_, fun schema schema' h h' => ?_⟩
  · have halike := ofOntology_alike_plain o hs
    exact ⟨halike.error_iff, fun _ _ h h' => halike.of_ok h h'⟩
  · cases hs : s.hashedNumbers with
    | false => exact (outline_unnumbered_eq_of_counted hs h' h).symm
    | true =>
      cases hs' : s'.hashedNumbers with
      | false => exact outline_unnumbered_eq_of_counted hs' h h'
      | true =>
        have halike := ofOntology_alike_plain o (hs'.trans hs.symm)
        exact outline_unnumbered_eq_of_plain (halike.of_ok h h')

/-- Two classes below a third; one has a name and refers to the other. -/
def interfaceOnHost : Document where
  declarations := ["urn:/Service", "urn:/Api", "urn:/Host"].map fun iri =>
    { class? := some { iri := some iri } }
  axioms := ["urn:/Api", "urn:/Host"].map (fun child =>
      { classes := [{ iri := some child }, { iri := some "urn:/Service" }] }) ++
    [{ classes := [{ iri := some "urn:/Api" }]
       dataValue := [{ property := { iri := some "urn:/name" }, literal := "string" }] },
     { classes := [{ iri := some "urn:/Api" }]
       objectSome :=
        [{ property := { iri := some "urn:/to" }, target := { iri := some "urn:/Host" } }] }]

/-- The classes of its ontology. -/
def interfaceOnHostClasses : List OntClass :=
  [{ iri := "urn:/Service", name := "Service", children := ["urn:/Api", "urn:/Host"] },
   { iri := "urn:/Api", name := "Api", parent := some "urn:/Service"
     dataProperties := [{ iri := "urn:/name", type := "string", name := "name", owner := "urn:/Api" }]
     objectProperties :=
      [{ iri := "urn:/to", name := "to", owner := "urn:/Api", target := "urn:/Host"
         targetName := "Host" }] },
   { iri := "urn:/Host", name := "Host", parent := some "urn:/Service" }]

/-- How many options each field of a schema has. -/
def optionCounts (schema : Schema) : List (List Nat) :=
  schema.messages.map fun m => m.fields.map (·.options.length)

theorem value_interfaceOnHost : (Ontology.ofDocument "" interfaceOnHost).value =
    interfaceOnHostClasses.foldl Ontology.insert {} := by
  decide

theorem exists_full_interfaceOnHost : ∃ full,
    (ofOntology ({} : SchemaOptions).ascending
        (interfaceOnHostClasses.foldl Ontology.insert {})).result = .ok full ∧
      full.optionCounts = [[4, 3], [], [0, 0]] :=
  exists_of_result_map (by cbv)

theorem exists_condensed_interfaceOnHost : ∃ condensed,
    (ofOntology { hashedNumbers := false, semantic := false, header := "" }
        (interfaceOnHostClasses.foldl Ontology.insert {})).result = .ok condensed ∧
      condensed.optionCounts = [[1, 0], [], [0, 0]] :=
  exists_of_result_map (by cbv)

theorem options_confined_interfaceOnHost : ∃ full condensed hashed,
    (ofOntology ({} : SchemaOptions).ascending
        (Ontology.ofDocument "" interfaceOnHost).value).result = .ok full ∧
      (ofOntology { hashedNumbers := false, semantic := false, header := "" }
        (Ontology.ofDocument "" interfaceOnHost).value).result = .ok condensed ∧
      (ofOntology {} (Ontology.ofDocument "" interfaceOnHost).value).result = .ok hashed ∧
      full.optionCounts = [[4, 3], [], [0, 0]] ∧ condensed.optionCounts = [[1, 0], [], [0, 0]] ∧
      condensed.outline Field.plain = full.outline Field.plain ∧
      hashed.outline Field.unnumbered = full.outline Field.unnumbered := by
  have hw := Ontology.wellFormed_ofDocument "" interfaceOnHost
  have ha := Ontology.acyclic_of_rank hw.keyed (fun k => if k = "urn:/Service" then 0 else 1)
    (by decide +kernel)
  obtain ⟨hashed, hhashed⟩ := exists_ofOntology (s := {}) hw ha rfl
  rw [value_interfaceOnHost] at hhashed ⊢
  obtain ⟨full, hfull, hfullCounts⟩ := exists_full_interfaceOnHost
  obtain ⟨condensed, hcondensed, hcondensedCounts⟩ := exists_condensed_interfaceOnHost
  obtain ⟨-, hplain⟩ := (options_confined ({} : SchemaOptions).ascending
    { hashedNumbers := false, semantic := false, header := "" }
    (interfaceOnHostClasses.foldl Ontology.insert {})).1 rfl
  have hunnumbered := (options_confined ({} : SchemaOptions).ascending {}
    (interfaceOnHostClasses.foldl Ontology.insert {})).2
  exact ⟨full, condensed, hashed, hfull, hcondensed, hhashed, hfullCounts, hcondensedCounts,
    hplain full condensed hfull hcondensed, hunnumbered full hashed hfull hhashed⟩

end Schema

end OntologySchema
