import Mathlib.Data.List.Infix
import OntologySchema.Proofs.Ontology.Accounting
import OntologySchema.Proofs.Ontology.Entries
import OntologySchema.Proofs.Prefixes

/-!
# Datatypes of XML Schema

The schema type of a datatype is looked up by its name. The table knows the datatypes of XML Schema in their `xsd:`
form, and the absolute form is put into that one. But a document that gives a datatype by its absolute IRI has it
abbreviated by the prefixes of the document first, and any short name may stand for the namespace, or for the front of
it. So the datatype gets its schema type just when the prefixes leave its IRI alone or abbreviate it to the `xsd:` form
(`schemaType_abbreviate_iff`); under another short name it goes by its abbreviation
(`otherShortName_unmapped`).

A class keeps the properties it has in their order (`Edits.dataProperties_kept`), so what one axiom attaches stands
together in the ontology of the document (`dataSome_ofDocument`).
-/

namespace OntologySchema

namespace Text

/-- What stands at the end and has no separator stands behind the separator. -/
theorem suffix_of_not_mem {sep : Char} {cs before after : List Char}
    (h : cs <:+ before ++ sep :: after) (hsep : sep ∉ cs) : cs <:+ after := by
  rcases List.suffix_or_suffix_of_suffix h (List.suffix_append before (sep :: after)) with h | h
  · rcases List.suffix_cons_iff.1 h with rfl | h
    · simp at hsep
    · exact h
  · exact absurd (h.subset List.mem_cons_self) hsep

end Text

/-! ### The table of schema types -/

namespace Datatype

open Prefixes (abbreviated toList_abbreviated)

/-- Types have no colon, names have at most one, and where two names have one type what one of them has behind its
colon is not the end of the absolute form of the other. -/
theorem known_apart : ∀ e ∈ known, ':' ∉ e.2.toList ∧ ∀ p ∈ Text.splitFirst? ':' e.1.toList, ':' ∉ p.2 ∧
    ∀ e' ∈ known, e'.2 = e.2 → p.2 <:+ xmlSchema.toList ++ e'.1.toList.drop 4 → e'.1 = e.1 := by
  -- the table is spelled out first: to take its texts apart while they are compared would take much longer
  have hspelled : ∃ (front : List Char) (table : List (List Char × List Char)),
      xmlSchema.toList = front ∧
      List.Forall₂ (fun e c => e.1.toList = c.1 ∧ e.2.toList = c.2) known table ∧
      ∀ c ∈ table, ':' ∉ c.2 ∧ ∀ p ∈ Text.splitFirst? ':' c.1, ':' ∉ p.2 ∧
        ∀ c' ∈ table, c'.2 = c.2 → p.2 <:+ front ++ c'.1.drop 4 → c'.1 = c.1 := by
    apply Exists.intro
    apply Exists.intro
    refine ⟨String.toList_ofList, ?_, ?_⟩
    · unfold known
      repeat apply List.Forall₂.cons (b := (_, _)) ⟨String.toList_ofList, String.toList_ofList⟩
      exact .nil
    · decide +kernel
  obtain ⟨front, table, hfront, htable, hapart⟩ := hspelled
  intro e he
  obtain ⟨c, hc, hname, htype⟩ := Attempt.exists_of_forall₂ htable he
  obtain ⟨hplain, hbehind⟩ := hapart c hc
  rw [htype, hname, hfront]
  refine ⟨hplain, fun p hp => ⟨(hbehind p hp).1, fun e' he' hsame hend => ?_⟩⟩
  obtain ⟨c', hc', hname', htype'⟩ := Attempt.exists_of_forall₂ htable he'
  rw [← String.toList_inj, hname, hname']
  exact (hbehind p hp).2 c' hc' (by rw [← htype, ← htype', hsame]) (hname' ▸ hend)

theorem mem_known_of_lookup {name type : String} (h : known.lookup name = some type) :
    (name, type) ∈ known := by
  obtain ⟨before, after, heq, -⟩ := List.lookup_eq_some_iff.1 h
  rw [heq]
  simp

/-- Names with colons that lead to one type are equal, or the table gives both of them this type. -/
theorem eq_or_known_of_getD_eq {name name' : String} (hname : ':' ∈ name.toList)
    (hname' : ':' ∈ name'.toList)
    (h : (known.lookup name).getD name = (known.lookup name').getD name') :
    name = name' ∨ ∃ type, (name, type) ∈ known ∧ (name', type) ∈ known := by
  cases hfound : known.lookup name with
  | none =>
    cases hfound' : known.lookup name' with
    | none => exact .inl (by simpa only [hfound, hfound', Option.getD_none] using h)
    | some type' =>
      rw [hfound, hfound', Option.getD_none, Option.getD_some] at h
      exact absurd (h ▸ hname) (known_apart _ (mem_known_of_lookup hfound')).1
  | some type =>
    cases hfound' : known.lookup name' with
    | none =>
      rw [hfound, hfound', Option.getD_none, Option.getD_some] at h
      exact absurd (h ▸ hname') (known_apart _ (mem_known_of_lookup hfound)).1
    | some type' =>
      rw [hfound, hfound', Option.getD_some, Option.getD_some] at h
      exact .inr ⟨type, mem_known_of_lookup hfound, h ▸ mem_known_of_lookup hfound'⟩

/-! ### The name that is looked up -/

theorem shortForm_append (name : String) : shortForm (xmlSchema ++ name) = "xsd:" ++ name := by
  rw [shortForm, Text.afterPrefix?_append]

theorem shortForm_cases (s : String) :
    (∃ name, s = xmlSchema ++ name ∧ shortForm s = "xsd:" ++ name) ∨ shortForm s = s := by
  unfold shortForm
  split
  · next name h => exact .inl ⟨name, Text.afterPrefix?_eq_some_iff.1 h, rfl⟩
  · exact .inr rfl

theorem shortForm_xsd (name : String) : shortForm ("xsd:" ++ name) = "xsd:" ++ name := by
  rcases shortForm_cases ("xsd:" ++ name) with ⟨name', h, -⟩ | h
  · have hhead := congrArg (fun s => s.toList.head?) h
    simp [xmlSchema] at hhead
  · exact h

theorem toList_xsd (name : String) : ("xsd:" ++ name).toList = ['x', 's', 'd'] ++ ':' :: name.toList := by
  simp

/-- What stands behind the first colon of the name by which an abbreviation is looked up is the end of the
abbreviation. -/
theorem exists_behind_colon (short suffix : String) : ∃ before after,
    (shortForm (abbreviated short suffix)).toList = before ++ ':' :: after ∧ ':' ∉ before ∧
      after <:+ short.toList ++ ':' :: suffix.toList := by
  rw [← toList_abbreviated]
  rcases shortForm_cases (abbreviated short suffix) with ⟨name', habs, heq⟩ | heq
  · refine ⟨_, _, by rw [heq, toList_xsd], by decide, ?_⟩
    rw [habs, String.toList_append]
    exact List.suffix_append _ _
  · have hmem : ':' ∈ (abbreviated short suffix).toList := by simp [toList_abbreviated]
    obtain ⟨before, after, hsplit⟩ := Text.exists_splitFirst? hmem
    obtain ⟨hfirst, hcolon⟩ := Text.eq_of_splitFirst? hsplit
    refine ⟨before, after, by rw [heq, hfirst], hcolon, ?_⟩
    rw [hfirst]
    exact (List.suffix_cons _ _).trans (List.suffix_append _ _)

/-- An abbreviation of a datatype of XML Schema has the type of the datatype only if it is looked up by the `xsd:` form
of the datatype. -/
theorem shortForm_eq_of_schemaType_eq {short suffix name : String}
    (hsuffix : suffix.toList <:+ (xmlSchema ++ name).toList)
    (h : schemaType (abbreviated short suffix) = schemaType ("xsd:" ++ name)) :
    shortForm (abbreviated short suffix) = "xsd:" ++ name := by
  rw [schemaType, schemaType, shortForm_xsd] at h
  obtain ⟨before, after, hfirst, hcolon, hafter⟩ := exists_behind_colon short suffix
  rcases eq_or_known_of_getD_eq (by simp [hfirst]) (by simp) h with heq | ⟨type, hknown, hknown'⟩
  · exact heq
  · obtain ⟨-, hbehind⟩ := known_apart _ hknown
    obtain ⟨hplain, hapart⟩ := hbehind (before, after) <| by
      rw [hfirst]
      exact Text.splitFirst?_append hcolon after
    refine (hapart _ hknown' rfl ?_).symm
    have hdrop : ("xsd:" ++ name).toList.drop 4 = name.toList := by simp
    rw [hdrop, ← String.toList_append]
    exact (Text.suffix_of_not_mem hafter hplain).trans hsuffix

/-- A datatype of XML Schema gets its type if the prefixes leave its IRI alone or abbreviate it to its `xsd:` form, and
not otherwise. -/
theorem schemaType_abbreviate_iff (t : Prefixes) (name : String) :
    schemaType (t.abbreviate (xmlSchema ++ name)) = schemaType ("xsd:" ++ name) ↔
      t.abbreviate (xmlSchema ++ name) = xmlSchema ++ name ∨
        t.abbreviate (xmlSchema ++ name) = "xsd:" ++ name := by
  constructor
  · intro h
    rcases t.abbreviate_cases (xmlSchema ++ name) with hself | ⟨short, base, suffix, -, heq, habb⟩
    · exact .inl hself
    · have hsuffix : suffix.toList <:+ (xmlSchema ++ name).toList := by
        rw [heq, String.toList_append]
        exact List.suffix_append _ _
      rw [habb] at h ⊢
      have hform := shortForm_eq_of_schemaType_eq hsuffix h
      rcases shortForm_cases (abbreviated short suffix) with ⟨name', habs, heq'⟩ | heq'
      · obtain rfl := (String.append_right_inj "xsd:").1 (heq'.symm.trans hform)
        exact .inl habs
      · exact .inr (heq'.symm.trans hform)
  · rintro (h | h)
    · rw [h, schemaType, schemaType, shortForm_append, shortForm_xsd]
    · rw [h]

end Datatype

namespace Ontology

variable {rv : Resolver} {o o' : Ontology} {owner k : String} {c : OntClass}

/-! ### What a class keeps -/

theorem Edit.dataProperties_kept (h : Edit o o') (hc : o.find? k = some c) :
    ∃ c', o'.find? k = some c' ∧ c.dataProperties <+: c'.dataProperties := by
  cases h with
  | @link child parent => exact ⟨linked child parent k c, by rw [find?_link, hc]; rfl, List.prefix_rfl⟩
  | @data owner _ p =>
    rw [addDataProperty, find?_modify, hc]
    split
    · exact ⟨_, rfl, List.prefix_append _ _⟩
    · exact ⟨c, rfl, List.prefix_rfl⟩
  | @object owner _ _ p =>
    rw [addObjectProperty, find?_modify, hc]
    split
    · exact ⟨_, rfl, List.prefix_rfl⟩
    · exact ⟨c, rfl, List.prefix_rfl⟩

/-- Whatever axioms follow, a class keeps the data properties that it has, in their order and in front of others. -/
theorem Edits.dataProperties_kept (h : Edits o o') (hc : o.find? k = some c) :
    ∃ c', o'.find? k = some c' ∧ c.dataProperties <+: c'.dataProperties := by
  induction h with
  | refl => exact ⟨c, hc, List.prefix_rfl⟩
  | tail _ he ih =>
    obtain ⟨d, hd, hpre⟩ := ih
    obtain ⟨c', hc', hpre'⟩ := he.dataProperties_kept hd
    exact ⟨c', hc', hpre.trans hpre'⟩

/-! ### What a restriction attaches -/

instance : DecidablePred DataSome.Complete := fun s =>
  inferInstanceAs (Decidable
    (s.property.present.identifier? ≠ none ∧ ∃ r ∈ s.datatype?, r.present.identifier? ≠ none))

/-- A data property is what a restriction attaches to its class: its type is that of the name that the datatype has
under the prefixes. A datatype that is given by an absolute IRI of XML Schema and in no other form has its own type just
when this name is the IRI or the `xsd:` form. -/
structure Attaches (rv : Resolver) (owner : String) (s : DataSome) (p : DataProperty) : Prop where
  owner_eq : p.owner = owner
  iri_eq : s.property.present.identifier? = some p.iri
  type_eq : ∃ name, s.datatype?.bind (datatypeName? rv) = some name ∧ p.type = Datatype.schemaType name
  xmlSchema_iff : ∀ name,
    s.datatype?.map Reference.present = some { iri := some (Datatype.xmlSchema ++ name) } →
      (p.type = Datatype.schemaType ("xsd:" ++ name) ↔
        rv.prefixes.abbreviate (Datatype.xmlSchema ++ name) = Datatype.xmlSchema ++ name ∨
          rv.prefixes.abbreviate (Datatype.xmlSchema ++ name) = "xsd:" ++ name)

theorem attaches_of_gain {s : DataSome} {g : Gain} (h : dataSomeGain? rv owner o s = some g) :
    ∃ p, g = .data p ∧ Attaches rv owner s p := by
  obtain ⟨identifier, hidentifier, h⟩ := Option.bind_eq_some_iff.1 h
  obtain ⟨datatype, hdatatype, rfl⟩ := Option.map_eq_some_iff.1 h
  refine ⟨_, rfl, rfl, hidentifier, ⟨datatype, hdatatype, rfl⟩, fun name hname => ?_⟩
  obtain ⟨r, hr, hpresent⟩ := Option.map_eq_some_iff.1 hname
  have habb : rv.prefixes.abbreviate (Datatype.xmlSchema ++ name) = datatype := by
    rw [hr, Option.bind_some, datatypeName?, hpresent] at hdatatype
    exact Option.some.inj hdatatype
  rw [← Datatype.schemaType_abbreviate_iff, habb]
  rfl

/-- The complete ones among the restrictions of a class attach a property each, in their order. -/
theorem forall₂_attaches {rs : List DataSome} {outcomes : List Outcome}
    (h : List.Forall₂ (Outcome.Of DataSome.Complete (dataSomeGain? rv owner o)) rs outcomes) :
    List.Forall₂ (Attaches rv owner) (rs.filter DataSome.Complete)
      ((outcomes.filterMap Except.toOption).filterMap Gain.data?) := by
  induction h with
  | nil => exact .nil
  | cons hof _ ih =>
    cases hof with
    | gained hcomplete hgain =>
      obtain ⟨p, rfl, hp⟩ := attaches_of_gain hgain
      rw [List.filter_cons_of_pos (by simpa using hcomplete)]
      exact .cons hp ih
    | warned hnot =>
      rw [List.filter_cons_of_neg (by simpa using hnot)]
      exact ih

/-! ### Documents -/

/-- In the ontology of a document the properties that an axiom attaches to a declared class stand together behind those
that the axioms before it have attached. -/
theorem dataSome_ofDocument (root : String) {d : Document} {before after : List SubclassAxiom}
    {a : SubclassAxiom} {subject : Reference} {rs : List DataSome}
    (haxioms : d.axioms = before ++ a :: after) (hshape : a.shape? = some (.dataSome subject rs))
    (howner : d.resolver.canonical? subject.present = some owner)
    (hdeclared : d.declaresClass owner = true) :
    ∃ b c attached others,
      (ofDocument root { d with axioms := before }).value.find? owner = some b ∧
      (ofDocument root d).value.find? owner = some c ∧
      c.dataProperties = b.dataProperties ++ attached ++ others ∧
      List.Forall₂ (Attaches d.resolver owner) (rs.filter DataSome.Complete) attached := by
  -- the ontology before the axiom
  obtain ⟨o, ho⟩ : ∃ o, o = (ofDocument root { d with axioms := before }).value := ⟨_, rfl⟩
  have hfinal : (ofDocument root d).value =
      after.foldl (fun o a => (attach d.resolver o a).value) (attach d.resolver o a).value := by
    rw [ho, value_ofDocument, value_ofDocument, haxioms, List.foldl_append, List.foldl_cons]
    rfl
  obtain ⟨b, hb⟩ : ∃ b, o.find? owner = some b := by
    obtain ⟨c, hc⟩ := contains_iff.1 ((congrFun (contains_described root d) owner).trans hdeclared)
    exact ho ▸ (edits_ofDocument root { d with axioms := before }).exists_find? hc
  obtain ⟨outcomes, gained, hofs, rfl, hvalue, -, -⟩ := (attachAll_accounted
    (takesIn_dataSome d.resolver) o subject rs).declared owner howner (contains_iff.2 ⟨b, hb⟩)
  have hattach : attach d.resolver o a = o.attachAll d.resolver subject (attachDataSome d.resolver) rs := by
    rw [attach, hshape]
  have hgained : (attach d.resolver o a).value.find? owner = some { b with
      dataProperties := b.dataProperties ++ (outcomes.filterMap Except.toOption).filterMap Gain.data?
      objectProperties :=
        b.objectProperties ++ (outcomes.filterMap Except.toOption).filterMap Gain.object? } := by
    rw [hattach, hvalue, find?_modify, if_pos rfl, hb]
    rfl
  obtain ⟨c, hc, others, hothers⟩ :=
    (edits_foldl edits_attach after _).dataProperties_kept hgained
  exact ⟨b, c, _, others, ho ▸ hb, hfinal ▸ hc, hothers.symm, forall₂_attaches hofs⟩

/-- A restriction to texts that names their datatype by its absolute IRI. -/
def hasText (property : String) : DataSome where
  property := { iri := some property }
  datatype? := some { iri := some (Datatype.xmlSchema ++ "string") }

/-- The axiom that gives restrictions to `urn:A`. -/
def ofA (rs : List DataSome) : SubclassAxiom := { classes := [{ iri := some "urn:A" }], dataSome := rs }

/-- A document with a short name for the namespace of XML Schema and one class, `urn:A`. -/
def withXmlSchemaAs (short : String) (axioms : List SubclassAxiom) : Document where
  prefixDeclarations := [{ name := short, iri := Datatype.xmlSchema }]
  declarations := [{ class? := some { iri := some "urn:A" } }]
  axioms := axioms

/-- Two axioms, the second of which has a restriction that names nothing. -/
def shortNameXsd : Document :=
  withXmlSchemaAs "xsd" [ofA [hasText "urn:p"], ofA [{}, hasText "urn:q"]]

theorem dataSome_ofDocument_shortNameXsd :
    shortNameXsd.axioms = [ofA [hasText "urn:p"]] ++ ofA [{}, hasText "urn:q"] :: [] ∧
      (ofA [{}, hasText "urn:q"]).shape? =
        some (.dataSome { iri := some "urn:A" } [{}, hasText "urn:q"]) ∧
      shortNameXsd.resolver.canonical? (Reference.present { iri := some "urn:A" }) = some "urn:A" ∧
      shortNameXsd.declaresClass "urn:A" = true ∧
      ∃ b c p others,
        (ofDocument "" { shortNameXsd with axioms := [ofA [hasText "urn:p"]] }).value.find? "urn:A" =
          some b ∧
        (ofDocument "" shortNameXsd).value.find? "urn:A" = some c ∧
        c.dataProperties = b.dataProperties ++ [p] ++ others ∧ p.iri = "urn:q" ∧ p.type = "string" := by
  have haxioms : shortNameXsd.axioms = [ofA [hasText "urn:p"]] ++ ofA [{}, hasText "urn:q"] :: [] := rfl
  have hshape : (ofA [{}, hasText "urn:q"]).shape? =
      some (.dataSome { iri := some "urn:A" } [{}, hasText "urn:q"]) := rfl
  have howner : shortNameXsd.resolver.canonical? (Reference.present { iri := some "urn:A" }) =
      some "urn:A" := by decide
  have hdeclared : shortNameXsd.declaresClass "urn:A" = true := by decide
  have hcomplete : [{}, hasText "urn:q"].filter DataSome.Complete = [hasText "urn:q"] := by decide
  obtain ⟨b, c, attached, others, hb, hc, hproperties, hattached⟩ :=
    dataSome_ofDocument "" haxioms hshape howner hdeclared
  rw [hcomplete] at hattached
  obtain ⟨p, _, hp, hnil, rfl⟩ := List.forall₂_cons_left_iff.1 hattached
  obtain rfl := List.forall₂_nil_left_iff.1 hnil
  have habb : shortNameXsd.resolver.prefixes.abbreviate (Datatype.xmlSchema ++ "string") = "xsd:" ++ "string" := by
    decide
  have htype := (hp.xmlSchema_iff "string" rfl).2 (.inr habb)
  refine ⟨haxioms, hshape, howner, hdeclared, b, c, p, others, hb, hc, hproperties, ?_, ?_⟩
  · exact (Option.some.inj hp.iri_eq).symm
  · exact htype.trans (by decide)

/-- A datatype of XML Schema does not get its type where the namespace goes by another short name than `xsd`. -/
theorem otherShortName_unmapped :
    (withXmlSchemaAs "xs" [ofA [hasText "urn:p"]]).declaresClass "urn:A" = true ∧
      (((ofDocument "" (withXmlSchemaAs "xs" [ofA [hasText "urn:p"]])).value.find? "urn:A").map
        fun c => c.dataProperties.map fun p => (p.iri, p.type)) = some [("urn:p", "xs:string")] ∧
      Datatype.schemaType ("xsd:" ++ "string") = "string" :=
  ⟨by decide, by decide, by decide⟩

end Ontology

end OntologySchema
