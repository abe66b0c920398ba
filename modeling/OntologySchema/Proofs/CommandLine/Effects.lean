import Mathlib.Data.Option.Basic
import OntologySchema.CommandLine.Run
import OntologySchema.Proofs.Files

/-!
# What a run does to files

A run reads, makes one text and puts it out, in this order. So what it makes is told by the files that it finds
(`Invocation.made?`): everything up to the text changes nothing, whether or not it fails (`Looks`), and then at
most one file is written, or the text is printed (`Makes`). A run that does not succeed prints nothing and leaves
the contents of all files as they were (`contents_run`).

The files are any state that obeys the laws of one, and the libraries any for which the program ends with a
failure at its arguments only by a complaint (`Libraries.Lawful`).
-/

namespace OntologySchema

open FileSystem (contents readText makeFolder newFile write moveTo discard placeOf)

/-- Where the arguments end the program, they do so by a complaint and with status 2, or by an answer and with
status 0. -/
structure Libraries.Lawful (lib : Libraries) : Prop where
  exit_status : ∀ arguments exit, lib.invocation arguments = .error exit →
    exit.status = if exit.onStderr then 2 else 0

theorem Libraries.standard_lawful : Libraries.standard.Lawful where
  exit_status arguments exit h := by
    change (Invocation.ofArguments arguments).mapError Halt.exit = .error exit at h
    cases hargs : Invocation.ofArguments arguments with
    | ok i =>
      rw [hargs] at h
      cases h
    | error halt =>
      rw [hargs] at h
      cases h
      cases halt <;> rfl

/-! ### Parts of a run -/

/-- A part of a run, on files and what was printed. -/
abbrev InWorld (σ α : Type) : Type := ExceptT Failure (StateM (World σ)) α

section

variable {σ α β : Type} {x : InWorld σ α} {w w' : World σ}

theorem run_bind_of_ok {a : α} (h : x.run.run w = (.ok a, w')) (k : α → InWorld σ β) :
    (x >>= k).run.run w = (k a).run.run w' := by
  rw [ExceptT.run_bind, StateT.run_bind, h]
  rfl

theorem run_bind_of_error {e : Failure} (h : x.run.run w = (.error e, w')) (k : α → InWorld σ β) :
    (x >>= k).run.run w = (.error e, w') := by
  rw [ExceptT.run_bind, StateT.run_bind, h]
  rfl

/-- An access to files leaves what was printed. -/
theorem run_onFiles {f : σ → σ × α} {a : α} {t : σ} (h : f w.files = (t, a)) :
    (ExceptT.lift (act (World.onFiles f)) : InWorld σ α).run.run w = (.ok a, { w with files := t }) := by
  change (Except.ok (f w.files).2, { w with files := (f w.files).1 }) = _
  rw [h]

/-- A computation changes nothing, and whether it fails and what it gives otherwise is told by the files. -/
def Looks (x : InWorld σ α) (f : σ → Option α) : Prop :=
  ∀ w, ∃ r : Except Failure α, x.run.run w = (r, w) ∧ r.toOption = f w.files

namespace Looks

variable {f : σ → Option α} {k : α → InWorld σ β} {g : α → σ → Option β}

theorem pure (a : α) : Looks (Pure.pure a : InWorld σ α) fun _ => some a := fun _ => ⟨.ok a, rfl, rfl⟩

theorem throw (e : Failure) : Looks (MonadExcept.throw e : InWorld σ α) fun _ => none :=
  fun _ => ⟨.error e, rfl, rfl⟩

theorem bind (hx : Looks x f) (hk : ∀ a, Looks (k a) (g a)) :
    Looks (x >>= k) fun s => (f s).bind fun a => g a s := by
  intro w
  obtain ⟨r, hr, hf⟩ := hx w
  dsimp only
  rw [← hf]
  cases r with
  | error e => exact ⟨.error e, run_bind_of_error hr k, rfl⟩
  | ok a =>
    obtain ⟨r', hr', hg⟩ := hk a w
    exact ⟨r', (run_bind_of_ok hr k).trans hr', hg⟩

theorem congr {f' : σ → Option α} (h : Looks x f) (heq : ∀ s, f' s = f s) : Looks x f' := by
  intro w
  rw [heq]
  exact h w

theorem rootOf (settings : Settings) :
    Looks (OntologySchema.rootOf settings : InWorld σ String) fun _ => settings.rootClass? := by
  unfold OntologySchema.rootOf
  cases settings.rootClass? with
  | none => exact throw _
  | some root => exact pure root

theorem exportOf (lib : Libraries) (o : Ontology) : Looks (OntologySchema.exportOf lib o : InWorld σ String)
    fun _ => (o.exported? lib.J).map (· ++ "\n") := by
  unfold OntologySchema.exportOf
  cases o.exported? lib.J with
  | none => exact throw _
  | some text => exact pure _

end Looks

end

variable {σ : Type} [FileSystem σ]

/-! ### What the files tell a run to make -/

/-- The settings in the file that an invocation names, if it names one. -/
def Invocation.fileSettings? (lib : Libraries) (i : Invocation) (s : σ) : Option Settings :=
  match i.settingsPath? with
  | none => some {}
  | some path => (readText s path).bind (Settings.ofText? lib.settings?)

/-- Where the result of an invocation goes: where a flag says, else where the settings file says, else where it
usually goes. An export is printed unless a flag names a file. -/
def Invocation.destination? (i : Invocation) (file : Settings) : Option String :=
  match i.task with
  | .schema => some ((i.flags.schemaPath? <|> file.schemaPath?).getD "api/ontology.proto")
  | .diagram => some ((i.flags.diagramPath? <|> file.diagramPath?).getD "api/ontology.puml")
  | .json path? => path?

/-- The options of the schema, if the header can be read. -/
def Settings.optionsFrom? (settings : Settings) (s : σ) : Option SchemaOptions :=
  match settings.headerPath? with
  | none => some (settings.schemaOptions none)
  | some path => (readText s path).map fun header => settings.schemaOptions (some header)

/-- The ontology in a file, if there is one. -/
def Ontology.from? (lib : Libraries) (root path : String) (s : σ) : Option Ontology :=
  (readText s path).bind fun text => (Ontology.loadBy lib.document? root text).result.toOption

/-- The text that an invocation asks for, where flags go before the settings file. -/
def Invocation.text? (lib : Libraries) (i : Invocation) (file : Settings) (s : σ) : Option String := do
  let settings := i.flags.orElse file
  let root ← settings.rootClass?
  match i.task with
  | .schema => do
    let options ← settings.optionsFrom? s
    let o ← Ontology.from? lib root i.input s
    let schema ← (Schema.ofOntology options o).result.toOption
    return schema.text
  | .diagram => do
    let o ← Ontology.from? lib root i.input s
    return (Diagram.ofOntology o).value.text
  | .json _ => do
    let o ← Ontology.from? lib root i.input s
    let text ← o.exported? lib.J
    return text ++ "\n"

/-- Where an invocation puts a text, and the text, if the files are fit for it. -/
def Invocation.made? (lib : Libraries) (i : Invocation) (s : σ) : Option (Option String × String) := do
  let file ← i.fileSettings? lib s
  let text ← i.text? lib file s
  return (i.destination? file, text)

theorem made?_eq_some_iff {lib : Libraries} {i : Invocation} {s : σ} {path? : Option String}
    {text : String} : i.made? lib s = some (path?, text) ↔ ∃ file, i.fileSettings? lib s = some file ∧
      i.text? lib file s = some text ∧ i.destination? file = path? := by
  simp [Invocation.made?, Option.bind_eq_some_iff]

section

variable {lib : Libraries} {α : Type}

/-! ### Looking -/

namespace Looks

theorem noteEvent (level : Log.Level) (message : String) (fields : List (String × Log.Value)) :
    Looks (OntologySchema.noteEvent level message fields : InWorld σ Unit) fun _ => some () :=
  fun _ => ⟨.ok (), rfl, rfl⟩

theorem noted (y : Logged α) : Looks (OntologySchema.noted y : InWorld σ α) fun _ => some y.value :=
  fun _ => ⟨.ok y.value, rfl, rfl⟩

theorem attempted {ε : Type} (failure : ε → Failure) (y : Attempt ε α) :
    Looks (OntologySchema.attempted failure y : InWorld σ α) fun _ => y.result.toOption := by
  unfold OntologySchema.attempted Attempt.result
  refine bind (g := fun r _ => r.toOption) (noted (σ := σ) y.run) fun r => ?_
  cases r with
  | error e => exact throw (failure e)
  | ok a => exact pure a

theorem textOf (failure : Failure) (path : String) :
    Looks (OntologySchema.textOf failure path : InWorld σ String) fun s => readText s path := by
  have hread : Looks (ExceptT.lift (FileAccess.readText path) : InWorld σ (Option String))
      fun s => some (readText s path) := fun w => ⟨.ok (readText w.files path), rfl, rfl⟩
  unfold OntologySchema.textOf
  refine bind (g := fun text _ => text) hread fun text => ?_
  cases text with
  | none => exact throw failure
  | some text => exact pure text

theorem settingsIn (i : Invocation) :
    Looks (OntologySchema.settingsIn lib i.settingsPath? : InWorld σ Settings) (i.fileSettings? lib) := by
  unfold OntologySchema.settingsIn Invocation.fileSettings?
  cases i.settingsPath? with
  | none => exact pure _
  | some path =>
    refine bind (g := fun text _ => Settings.ofText? lib.settings? text) (textOf _ path) fun text => ?_
    cases Settings.ofText? lib.settings? text with
    | none => exact throw _
    | some settings => exact pure settings

theorem schemaOptionsOf (settings : Settings) :
    Looks (OntologySchema.schemaOptionsOf settings : InWorld σ SchemaOptions) settings.optionsFrom? := by
  unfold OntologySchema.schemaOptionsOf Settings.optionsFrom?
  cases settings.headerPath? with
  | none => exact pure _
  | some path =>
    exact ((textOf _ path).bind fun header => pure _).congr fun s => Option.map_eq_bind

theorem ontologyIn (root path : String) :
    Looks (OntologySchema.ontologyIn lib root path : InWorld σ Ontology) (Ontology.from? lib root path) := by
  unfold OntologySchema.ontologyIn
  refine ((noteEvent _ _ _).bind fun _ => (textOf _ path).bind fun text => (attempted _ _).bind fun o =>
    (noteEvent _ _ _).bind fun _ => pure o).congr fun s => ?_
  simp [Ontology.from?]

end Looks

/-! ### Putting out what was made -/

/-- How the program ends whose invocation has a result or fails. -/
def Ending.ofResult : Except Failure Unit → Ending
  | .ok () => .done
  | .error e => .failed e

/-- What a run that makes a text, or none, does: it fails and changes nothing, prints the text, writes it to a
file or fails to. -/
inductive Effect (w : World σ) : Option (Option String × String) → Except Failure Unit → World σ → Prop
  | nothing (e : Failure) : Effect w none (.error e) w
  | printed (text : String) :
      Effect w (some (none, text)) (.ok ()) { w with printed := w.printed ++ text }
  | written {path text : String} {t : σ} (hputs : Puts w.files path text t) :
      Effect w (some (some path, text)) (.ok ()) { w with files := t }
  | refused {path text : String} {t : σ} (e : Failure) (hcannot : ¬ ∃ t, Puts w.files path text t)
      (hkept : contents t = contents w.files) :
      Effect w (some (some path, text)) (.error e) { w with files := t }

namespace Effect

variable {w w' : World σ} {made : Option (Option String × String)} {r : Except Failure Unit}

/-- What fails prints nothing and changes the content of no file. -/
theorem of_failure (h : Effect w made r w') (hstatus : (Ending.ofResult r).status ≠ 0) :
    w'.printed = w.printed ∧ contents w'.files = contents w.files := by
  cases h with
  | nothing e => exact ⟨rfl, rfl⟩
  | printed text => exact absurd rfl hstatus
  | written hputs => exact absurd rfl hstatus
  | refused e hcannot hkept => exact ⟨rfl, hkept⟩

theorem status_eq_zero_iff (h : Effect w made r w') : (Ending.ofResult r).status = 0 ↔
    ∃ path? text, made = some (path?, text) ∧ ∀ path ∈ path?, ∃ t, Puts w.files path text t := by
  cases h with
  | nothing e => exact ⟨nofun, fun ⟨_, _, hmade, _⟩ => nomatch hmade⟩
  | printed text => exact ⟨fun _ => ⟨none, text, rfl, nofun⟩, fun _ => rfl⟩
  | written hputs =>
    refine ⟨fun _ => ⟨_, _, rfl, fun path hpath => ?_⟩, fun _ => rfl⟩
    cases hpath
    exact ⟨_, hputs⟩
  | refused e hcannot hkept =>
    refine ⟨nofun, ?_⟩
    rintro ⟨_, _, hmade, hputs⟩
    cases hmade
    exact absurd (hputs _ rfl) hcannot

/-- What succeeds writes one file, or prints the text. -/
theorem of_success [LawfulFileSystem σ] {path? : Option String} {text : String}
    (h : Effect w (some (path?, text)) r w') (hstatus : (Ending.ofResult r).status = 0) :
    (∀ path, path? = some path → w'.printed = w.printed ∧ WrittenOnly w.files w'.files path text) ∧
      (path? = none → w'.printed = w.printed ++ text ∧ w'.files = w.files) := by
  cases h with
  | printed text => exact ⟨nofun, fun _ => ⟨rfl, rfl⟩⟩
  | written hputs =>
    refine ⟨fun path hpath => ?_, nofun⟩
    cases hpath
    exact ⟨rfl, hputs.writtenOnly⟩
  | refused e hcannot hkept => cases hstatus

end Effect

/-- What a computation does is told by what the files tell it to make. -/
def Makes (x : InWorld σ Unit) (made? : σ → Option (Option String × String)) : Prop :=
  ∀ w, Effect w (made? w.files) (x.run.run w).1 (x.run.run w).2

/-- Looking before making something. -/
theorem Looks.makes {f : σ → Option α} {k : α → InWorld σ Unit}
    {made? : α → σ → Option (Option String × String)} (hx : Looks x f) (hk : ∀ a, Makes (k a) (made? a)) :
    Makes (x >>= k) fun s => (f s).bind fun a => made? a s := by
  intro w
  obtain ⟨r, hr, hf⟩ := hx w
  dsimp only
  rw [← hf]
  cases r with
  | error e =>
    rw [run_bind_of_error hr k]
    exact .nothing e
  | ok a =>
    rw [run_bind_of_ok hr k]
    exact hk a w

theorem Makes.congr {x : InWorld σ Unit} {made? made'? : σ → Option (Option String × String)}
    (h : Makes x made?) (heq : ∀ s, made'? s = made? s) : Makes x made'? := by
  intro w
  rw [heq]
  exact h w

theorem makes_print (text : String) :
    Makes (ExceptT.lift (Console.print text) : InWorld σ Unit) fun _ => some (none, text) :=
  fun _ => .printed text

variable [LawfulFileSystem σ]

/-- A new file takes a text and its place, or leaves nothing behind. -/
theorem settle_cases {folder : String} {made created : σ} {file : FileSystem.NewFile σ}
    (hnew : newFile made folder = (created, some file)) (path text : String) (w : World σ) :
    (∃ t, Settles created file path text t ∧
      (settle file path text : InWorld σ Unit).run.run { w with files := created } =
        (.ok (), { w with files := t })) ∨
    (¬ ∃ t, Settles created file path text t) ∧ ∃ e t, contents t = contents made ∧
      (settle file path text : InWorld σ Unit).run.run { w with files := created } =
        (.error e, { w with files := t }) := by
  unfold settle
  cases hwrite : write created file text with | mk written isWritten =>
  have hwritten : SameBut (placeOf file) created written := by
    have hwritten := LawfulFileSystem.sameBut_write created file text
    rwa [hwrite] at hwritten
  have hrun : (ExceptT.lift (FileAccess.write file text) : InWorld σ Bool).run.run
      { w with files := created } = (.ok isWritten, { w with files := written }) := run_onFiles hwrite
  rw [run_bind_of_ok hrun]
  cases isWritten with
  | false =>
    refine .inr ⟨?_, .writing path, discard written file, contents_discard_newFile hnew hwritten, rfl⟩
    rintro ⟨t, _, hwrite', -⟩
    cases hwrite.symm.trans hwrite'
  | true =>
    cases hmove : moveTo written file path with | mk moved isMoved =>
    have hrun : (ExceptT.lift (FileAccess.moveTo file path) : InWorld σ Bool).run.run
        { w with files := written } = (.ok isMoved, { w with files := moved }) := run_onFiles hmove
    rw [if_pos rfl, run_bind_of_ok hrun]
    cases isMoved with
    | false =>
      have hmoved : SameBut (placeOf file) created moved := fun other hother => by
        rw [LawfulFileSystem.contents_moveTo hmove]
        exact hwritten other hother
      refine .inr ⟨?_, .moving path, discard moved file, contents_discard_newFile hnew hmoved, rfl⟩
      rintro ⟨t, _, hwrite', hmove'⟩
      cases hwrite.symm.trans hwrite'
      cases hmove.symm.trans hmove'
    | true => exact .inl ⟨moved, ⟨written, hwrite, hmove⟩, rfl⟩

/-- A text takes its place or is not there at all: a step that fails leaves the contents of all files as they
were. -/
theorem makes_writeFile (path text : String) :
    Makes (writeFile path text : InWorld σ Unit) fun _ => some (some path, text) := by
  intro w
  let folder := Path.folder path
  unfold writeFile
  dsimp only
  cases hmake : makeFolder w.files folder with | mk made isMade =>
  have hmade : contents made = contents w.files := by
    rw [← LawfulFileSystem.contents_makeFolder w.files folder, hmake]
  have hrun : (ExceptT.lift (FileAccess.makeFolder folder) : InWorld σ Bool).run.run w =
      (.ok isMade, { w with files := made }) := run_onFiles hmake
  rw [run_bind_of_ok hrun]
  cases isMade with
  | false =>
    refine .refused (.folder folder) ?_ hmade
    rintro ⟨t, _, _, _, hmake', -, -⟩
    cases hmake.symm.trans hmake'
  | true =>
    cases hnew : newFile made folder with | mk created file? =>
    have hrun : (ExceptT.lift (FileAccess.newFile folder) : InWorld σ _).run.run { w with files := made } =
        (.ok file?, { w with files := created }) := run_onFiles hnew
    rw [if_pos rfl, run_bind_of_ok hrun]
    cases file? with
    | none =>
      refine .refused (.temporary folder) ?_ ((LawfulFileSystem.contents_newFile hnew).trans hmade)
      rintro ⟨t, _, _, _, hmake', hnew', -⟩
      cases hmake.symm.trans hmake'
      cases hnew.symm.trans hnew'
    | some file =>
      obtain ⟨t, hsettles, ht⟩ | ⟨hrefused, e, t, hkept, ht⟩ := settle_cases hnew path text w
      · rw [ht]
        exact .written ⟨made, created, file, hmake, hnew, hsettles⟩
      · rw [ht]
        refine .refused e ?_ (hkept.trans hmade)
        rintro ⟨t, _, _, _, hmake', hnew', hsettles⟩
        cases hmake.symm.trans hmake'
        cases hnew.symm.trans hnew'
        exact hrefused ⟨t, hsettles⟩

/-- An invocation looks, and looks again, until the text is made; the effect comes last. -/
theorem makes_run (i : Invocation) : Makes (i.run lib : InWorld σ Unit) (i.made? lib) := by
  obtain ⟨task, input, settingsPath?, flags⟩ := i
  unfold Invocation.run
  cases task with
  | schema =>
    refine ((Looks.settingsIn _).makes fun file => (Looks.rootOf _).makes fun root =>
      (Looks.schemaOptionsOf _).makes fun options => (Looks.noteEvent _ _ _).makes fun _ =>
      (Looks.ontologyIn root input).makes fun o => (Looks.attempted _ _).makes fun schema =>
      makes_writeFile _ _).congr fun s => ?_
    have hpath : ∀ file, (flags.orElse file).schemaPath =
        (flags.schemaPath? <|> file.schemaPath?).getD "api/ontology.proto" := fun _ => rfl
    simp [Invocation.made?, Invocation.text?, Invocation.destination?, Option.bind_assoc, hpath]
  | diagram =>
    refine ((Looks.settingsIn _).makes fun file => (Looks.rootOf _).makes fun root =>
      (Looks.noteEvent _ _ _).makes fun _ => (Looks.ontologyIn root input).makes fun o =>
      (Looks.noted _).makes fun diagram => makes_writeFile _ _).congr fun s => ?_
    have hpath : ∀ file, (flags.orElse file).diagramPath =
        (flags.diagramPath? <|> file.diagramPath?).getD "api/ontology.puml" := fun _ => rfl
    simp [Invocation.made?, Invocation.text?, Invocation.destination?, Option.bind_assoc, hpath]
  | json path? =>
    cases path? with
    | none =>
      refine ((Looks.settingsIn _).makes fun file => (Looks.rootOf _).makes fun root =>
        (Looks.ontologyIn root input).makes fun o => (Looks.exportOf lib o).makes fun text =>
        makes_print text).congr fun s => ?_
      simp [Invocation.made?, Invocation.text?, Invocation.destination?, Option.bind_assoc, Option.bind_map]
    | some path =>
      refine ((Looks.settingsIn _).makes fun file => (Looks.rootOf _).makes fun root =>
        (Looks.ontologyIn root input).makes fun o => (Looks.exportOf lib o).makes fun text =>
        makes_writeFile path text).congr fun s => ?_
      simp [Invocation.made?, Invocation.text?, Invocation.destination?, Option.bind_assoc, Option.bind_map]

end

/-! ### Whole runs -/

variable {lib : Libraries}

theorem runOn_of_exit {arguments : List String} {exit : Exit} (h : lib.invocation arguments = .error exit)
    (before : σ) : runOn lib arguments before = (⟨exit.status, if exit.onStderr then "" else exit.text,
      if exit.onStderr then some exit.text else none⟩, before) := by
  obtain ⟨status, text, onStderr⟩ := exit
  unfold runOn program
  rw [h]
  cases onStderr with
  | true => rfl
  | false => simp [Console.print]; rfl

variable [LawfulFileSystem σ]

theorem runOn_of_invocation {arguments : List String} {i : Invocation}
    (h : lib.invocation arguments = .ok i) (before : σ) :
    ∃ r after, Effect { files := before } (i.made? lib before) r after ∧
      runOn lib arguments before =
        (⟨(Ending.ofResult r).status, after.printed, (Ending.ofResult r).complaint?⟩, after.files) := by
  refine ⟨_, _, makes_run i { files := before }, ?_⟩
  unfold runOn program
  rw [h]
  dsimp only
  rw [StateT.run_bind]
  cases (i.run lib : InWorld σ Unit).run.run { files := before } with
  | mk r after => cases r <;> rfl

/-- A run that does not succeed prints nothing and leaves the contents of all files as they were. A run succeeds
if its invocation can be made from the files that it finds and its result can be put where it goes. Then the
file at this place holds the result and every other file is as it was, or, where no file is asked for, the result
is printed. -/
theorem contents_run (hlib : lib.Lawful) (arguments : List String) (before : σ) :
    let outcome := (runOn lib arguments before).1
    let after := (runOn lib arguments before).2
    (outcome.status ≠ 0 → outcome.output = "" ∧ contents after = contents before) ∧
      (∀ exit, lib.invocation arguments = .error exit →
        outcome.status = exit.status ∧ after = before) ∧
      ∀ i, lib.invocation arguments = .ok i →
        (outcome.status = 0 ↔ ∃ file text, i.fileSettings? lib before = some file ∧
          i.text? lib file before = some text ∧
          ∀ path ∈ i.destination? file, ∃ t, Puts before path text t) ∧
        ∀ file text, i.fileSettings? lib before = some file → i.text? lib file before = some text →
          outcome.status = 0 →
          (∀ path, i.destination? file = some path →
            outcome.output = "" ∧ WrittenOnly before after path text) ∧
          (i.destination? file = none → outcome.output = text ∧ after = before) := by
  cases h : lib.invocation arguments with
  | error exit =>
    rw [runOn_of_exit h before]
    refine ⟨fun hstatus => ⟨?_, rfl⟩, fun exit' h' => ?_, fun _ h' => nomatch h'⟩
    · -- an answer would have status 0
      have hexit := hlib.exit_status arguments exit h
      cases hstderr : exit.onStderr with
      | true => rfl
      | false =>
        rw [hstderr] at hexit
        exact absurd hexit hstatus
    · cases h'
      exact ⟨rfl, rfl⟩
  | ok i =>
    obtain ⟨r, after, heffect, hrun⟩ := runOn_of_invocation h before
    rw [hrun]
    refine ⟨heffect.of_failure, fun _ h' => (nomatch h'), fun i' h' => ?_⟩
    cases h'
    refine ⟨?_, fun file text hfile htext hstatus => ?_⟩
    · rw [heffect.status_eq_zero_iff]
      simp only [made?_eq_some_iff]
      constructor
      · rintro ⟨_, text, ⟨file, hfile, htext, rfl⟩, hputs⟩
        exact ⟨file, text, hfile, htext, hputs⟩
      · rintro ⟨file, text, hfile, htext, hputs⟩
        exact ⟨_, text, ⟨file, hfile, htext, rfl⟩, hputs⟩
    · rw [made?_eq_some_iff.2 ⟨file, hfile, htext, rfl⟩] at heffect
      have hsuccess := heffect.of_success hstatus
      rwa [String.empty_append] at hsuccess

/-- A machine with an ontology and a text in files, and perhaps without room for more than a few bytes in a new
one. -/
def machine (room? : Option Nat) : Files :=
  let ontology := "<Ontology><Declaration><Class IRI=\"urn:/A\"/></Declaration></Ontology>"
  (Files.put { room? := room? } "in.owx" ontology.toUTF8).put "out.puml" "old".toUTF8

/-- The arguments for a diagram that takes the place of the text. -/
def drawing : List String := ["uml", "in.owx", "--root-resource-name=R", "--output-path=out.puml"]

/-- The diagram. -/
def drawn : String :=
  "@startuml ontology\n/' Auto-generated code by owl2proto (https://github.com/oxisto/owl2proto) '/\n" ++
    "\nclass A \x7b\n\x7d\n@enduml\n"

theorem contents_run_drawing : Libraries.standard.Lawful ∧
    (runOn .standard drawing (machine (some 8))).1 = ⟨1, "", some "Error: Failed to write out.puml"⟩ ∧
    contents (runOn .standard drawing (machine (some 8))).2 = contents (machine (some 8)) ∧
    (runOn .standard drawing (machine none)).1 = ⟨0, "", none⟩ ∧
    WrittenOnly (machine none) (runOn .standard drawing (machine none)).2 "out.puml" drawn := by
  have hlawful := Libraries.standard_lawful
  have hfull : (runOn .standard drawing (machine (some 8))).1 =
      ⟨1, "", some "Error: Failed to write out.puml"⟩ := by
    decide +kernel
  have hroom : (runOn .standard drawing (machine none)).1 = ⟨0, "", none⟩ := by decide +kernel
  let i : Invocation :=
    { task := .diagram, input := "in.owx"
      flags := { root? := some "R", diagramPath? := some "out.puml" } }
  have hi : Libraries.standard.invocation drawing = .ok i := rfl
  have htext : i.text? Libraries.standard {} (machine none) = some drawn := by decide +kernel
  have hkept := (contents_run hlawful drawing (machine (some 8))).1 (by rw [hfull]; decide)
  have hwritten := ((contents_run hlawful drawing (machine none)).2.2 i hi).2 {} _ rfl htext
    (by rw [hroom])
  exact ⟨hlawful, hfull, hkept.2, hroom, (hwritten.1 "out.puml" rfl).2⟩

end OntologySchema
