import OntologySchema.Files.Basic

/-!
# Writing a file

What a state that holds files is relied on for (`LawfulFileSystem`): each access changes no content but that of
the file it is about, whether or not it succeeds. A text is put in a file in four steps (`Puts`); once they are
done the text is read there, and every other file is as it was (`Puts.writtenOnly`). The steps up to one that
fails leave nothing behind once the new file is discarded (`contents_discard_newFile`).

Trees of files obey these laws.
-/

namespace OntologySchema

open FileSystem (NewFile contents place? placeOf readText makeFolder newFile write moveTo discard)

/-- The content at every place but one is as it was. -/
def SameBut {σ : Type} [FileSystem σ] (place : FileSystem.Place σ) (s t : σ) : Prop :=
  ∀ other, other ≠ place → contents t other = contents s other

/-- The laws of a state that holds files. -/
class LawfulFileSystem (σ : Type) [FileSystem σ] : Prop where
  contents_makeFolder (s : σ) (path : String) : contents (makeFolder s path).1 = contents s
  contents_newFile {s t : σ} {folder : String} (h : newFile s folder = (t, none)) : contents t = contents s
  /-- A new file is where none was, and it is empty. -/
  newFile_eq_some {s t : σ} {folder : String} {file : NewFile σ} (h : newFile s folder = (t, some file)) :
    contents s (placeOf file) = none ∧ contents t (placeOf file) = some .empty ∧ SameBut (placeOf file) s t
  sameBut_write (s : σ) (file : NewFile σ) (text : String) :
    SameBut (placeOf file) s (write s file text).1
  contents_write {s t : σ} {file : NewFile σ} {text : String} {bytes : ByteArray}
    (h : write s file text = (t, true)) (hbytes : contents s (placeOf file) = some bytes) :
    contents t (placeOf file) = some (bytes ++ text.toUTF8)
  contents_moveTo {s t : σ} {file : NewFile σ} {path : String} (h : moveTo s file path = (t, false)) :
    contents t = contents s
  /-- A file takes the place that a path leads to, and leaves its own. -/
  moveTo_eq_true {s t : σ} {file : NewFile σ} {path : String} (h : moveTo s file path = (t, true)) :
    ∃ place, place? t path = some place ∧ contents t place = contents s (placeOf file) ∧
      (placeOf file ≠ place → contents t (placeOf file) = none) ∧
      ∀ other, other ≠ place → other ≠ placeOf file → contents t other = contents s other
  readText_moveTo {s t : σ} {file : NewFile σ} {path text : String} (h : moveTo s file path = (t, true))
    (htext : contents s (placeOf file) = some text.toUTF8) : readText t path = some text
  contents_discard (s : σ) (file : NewFile σ) : contents (discard s file) (placeOf file) = none
  sameBut_discard (s : σ) (file : NewFile σ) : SameBut (placeOf file) s (discard s file)

section

variable {σ : Type} [FileSystem σ]

/-- A new file takes a text, and then the place that a path leads to. -/
def Settles (s : σ) (file : NewFile σ) (path text : String) (t : σ) : Prop :=
  ∃ written, write s file text = (written, true) ∧ moveTo written file path = (t, true)

/-- A text is put in a file: its folder is there in the end, and a new file there takes the text and then the
place of the file. -/
def Puts (s : σ) (path text : String) (t : σ) : Prop :=
  ∃ made created file, makeFolder s (Path.folder path) = (made, true) ∧
    newFile made (Path.folder path) = (created, some file) ∧ Settles created file path text t

/-- The file at a path holds a text, and the other files are as before. -/
structure WrittenOnly (before after : σ) (path text : String) : Prop where
  place : ∃ place, place? after path = some place ∧ contents after place = some text.toUTF8 ∧
    SameBut place before after
  readText_eq : readText after path = some text

variable [LawfulFileSystem σ] {s made created t : σ} {folder : String} {file : NewFile σ}

/-- A new file leaves nothing behind once it is discarded, whatever became of it. -/
theorem contents_discard_newFile (hnew : newFile s folder = (created, some file))
    (ht : SameBut (placeOf file) created t) : contents (discard t file) = contents s := by
  obtain ⟨hnone, -, hcreated⟩ := LawfulFileSystem.newFile_eq_some hnew
  funext place
  by_cases hplace : place = placeOf file
  · rw [hplace, LawfulFileSystem.contents_discard, hnone]
  · calc contents (discard t file) place
      _ = contents t place := LawfulFileSystem.sameBut_discard t file place hplace
      _ = contents created place := ht place hplace
      _ = contents s place := hcreated place hplace

/-- A text that is put in a file is there, and in no other file is anything new. -/
theorem Puts.writtenOnly {path text : String} (h : Puts s path text t) : WrittenOnly s t path text := by
  obtain ⟨made, created, file, hmake, hnew, written, hwrite, hmove⟩ := h
  have hmade : contents made = contents s := by
    rw [← LawfulFileSystem.contents_makeFolder s (Path.folder path), hmake]
  obtain ⟨hnone, hempty, hcreated⟩ := LawfulFileSystem.newFile_eq_some hnew
  have hwritten : SameBut (placeOf file) created written := by
    have hwritten := LawfulFileSystem.sameBut_write created file text
    rwa [hwrite] at hwritten
  have htext : contents written (placeOf file) = some text.toUTF8 := by
    rw [LawfulFileSystem.contents_write hwrite hempty, ByteArray.empty_append]
  obtain ⟨place, hplace, hthere, hgone, hkept⟩ := LawfulFileSystem.moveTo_eq_true hmove
  refine ⟨⟨place, hplace, hthere.trans htext, fun other hother => ?_⟩,
    LawfulFileSystem.readText_moveTo hmove htext⟩
  by_cases hfile : other = placeOf file
  · rw [hfile, hgone (hfile ▸ hother), ← hmade, hnone]
  · calc contents t other
      _ = contents written other := hkept other hother hfile
      _ = contents created other := hwritten other hfile
      _ = contents made other := hcreated other hfile
      _ = contents s other := by rw [hmade]

end

/-! ### Trees of files -/

namespace Files

variable {s t : Files} {k path : String}

theorem fromUTF8?_toUTF8 (text : String) : String.fromUTF8? text.toUTF8 = some text := by
  unfold String.fromUTF8?
  exact dif_pos text.isValidUTF8

theorem contents_makeFolders (s : Files) (names parts : List String) :
    (s.makeFolders names parts).1.contents = s.contents := by
  fun_induction makeFolders s names parts with
  | case1 => rfl
  | case2 _ _ _ _ _ ih => exact ih
  | case3 _ _ _ _ ih => exact ih
  | case4 _ _ _ _ _ _ _ ih => exact ih
  | case5 _ _ _ _ _ _ _ _ ih => exact ih
  | case6 => rfl

/-- Where paths lead does not depend on what is in the files. -/
theorem walk_contents (s : Files) (c : Table ByteArray) (names parts : List String) :
    { s with contents := c }.walk names parts = s.walk names parts := by
  induction parts generalizing names with
  | nil => rfl
  | cons part parts ih =>
    unfold walk
    rw [ih, ih, ih]
    rfl

theorem locate?_contents (s : Files) (c : Table ByteArray) (path : String) :
    { s with contents := c }.locate? path = s.locate? path := by
  unfold locate?
  rw [walk_contents]
  rfl

theorem target?_contents (s : Files) (c : Table ByteArray) (path : String) :
    { s with contents := c }.target? path = s.target? path := by
  unfold target?
  rw [locate?_contents]
  rfl

theorem locate?_of_target? {names : List String} (h : s.target? path = some names) :
    s.locate? path = some names := by
  unfold target? at h
  obtain ⟨name, -, h⟩ := Option.bind_eq_some_iff.1 h
  split at h
  · cases h
  · obtain ⟨found, hfound, h⟩ := Option.bind_eq_some_iff.1 h
    split at h
    · cases h
    · cases h
      exact hfound

theorem text?_of_target? {names : List String} {text : String} (hnames : s.target? path = some names)
    (htext : s.contents.find? (s.key names) = some text.toUTF8) : s.text? path = some text := by
  rw [text?, locate?_of_target? hnames, Option.bind_some, htext]
  exact fromUTF8?_toUTF8 text

/-- What a new file in a folder is: none, or one under a key that nothing has. -/
theorem newFile_cases (s : Files) (folder : String) :
    s.newFile folder = (s, none) ∨ ∃ k, s.contents.find? k = none ∧
      s.newFile folder = ({ s with contents := s.contents.insert k .empty }, some k) := by
  unfold newFile
  split
  · exact .inl rfl
  · split
    · exact .inl rfl
    · next k hk =>
      have hfree := List.find?_some hk
      simp only [Bool.and_eq_true, Bool.not_eq_true', Table.contains, Option.isSome_eq_false_iff,
        Option.isNone_iff_eq_none] at hfree
      exact .inr ⟨k, hfree.1, rfl⟩

/-- What writing to a file does: nothing where there is none, all of it, or a part. -/
theorem write_cases (s : Files) (k text : String) :
    s.write k text = (s, false) ∧ s.contents.find? k = none ∨
    ∃ bytes, s.contents.find? k = some bytes ∧
      (s.write k text = ({ s with contents := s.contents.insert k (bytes ++ text.toUTF8) }, true) ∨
        ∃ part, s.write k text = ({ s with contents := s.contents.insert k part }, false)) := by
  unfold write
  split
  · next h => exact .inl ⟨rfl, h⟩
  · next bytes h =>
    refine .inr ⟨bytes, h, ?_⟩
    dsimp only
    split
    · exact .inl rfl
    · exact .inr ⟨_, rfl⟩

/-- What moving a file does: nothing, or the file is at the place that the path leads to. -/
theorem moveTo_cases (s : Files) (k path : String) :
    s.moveTo k path = (s, false) ∨ ∃ bytes names, s.contents.find? k = some bytes ∧
      s.target? path = some names ∧
      s.moveTo k path = ({ s with contents := (s.contents.erase k).insert (s.key names) bytes }, true) := by
  unfold moveTo
  split
  · next bytes names hbytes hnames =>
    exact .inr ⟨bytes, names, hbytes, (Option.filter_eq_some_iff.1 hnames).1, rfl⟩
  · exact .inl rfl

theorem moveTo_eq_true (h : s.moveTo k path = (t, true)) :
    ∃ bytes names, s.contents.find? k = some bytes ∧ s.target? path = some names ∧
      t = { s with contents := (s.contents.erase k).insert (s.key names) bytes } := by
  obtain hfalse | ⟨bytes, names, hbytes, hnames, htrue⟩ := moveTo_cases s k path
  · rw [hfalse] at h
    cases h
  · rw [htrue] at h
    cases h
    exact ⟨bytes, names, hbytes, hnames, rfl⟩

instance : LawfulFileSystem Files where
  contents_makeFolder s path := by
    change (fun k => (s.makeFolder path).1.contents.find? k) = fun k => s.contents.find? k
    unfold makeFolder
    split
    · rw [contents_makeFolders]
    · rfl
  contents_newFile {s t folder} h := by
    obtain hnone | ⟨k, -, hsome⟩ := newFile_cases s folder
    · cases hnone.symm.trans h
      rfl
    · cases hsome.symm.trans h
  newFile_eq_some {s t folder k} h := by
    obtain hnone | ⟨k, hfree, hsome⟩ := newFile_cases s folder
    · cases hnone.symm.trans h
    · cases hsome.symm.trans h
      refine ⟨hfree, (Table.find?_insert ..).trans (if_pos rfl), fun other hother => ?_⟩
      exact (Table.find?_insert ..).trans (if_neg hother)
  sameBut_write s k text := by
    intro other hother
    change (s.write k text).1.contents.find? other = s.contents.find? other
    obtain ⟨h, -⟩ | ⟨bytes, -, h | ⟨part, h⟩⟩ := write_cases s k text
    · rw [h]
    · rw [h]
      exact (Table.find?_insert ..).trans (if_neg hother)
    · rw [h]
      exact (Table.find?_insert ..).trans (if_neg hother)
  contents_write {s t k text bytes} h hbytes := by
    obtain ⟨hkept, -⟩ | ⟨found, hfound, hall | ⟨part, hpart⟩⟩ := write_cases s k text
    · cases hkept.symm.trans h
    · cases hall.symm.trans h
      cases hfound.symm.trans hbytes
      exact (Table.find?_insert ..).trans (if_pos rfl)
    · cases hpart.symm.trans h
  contents_moveTo {s t k path} h := by
    obtain hkept | ⟨bytes, names, -, -, hmoved⟩ := moveTo_cases s k path
    · cases hkept.symm.trans h
      rfl
    · cases hmoved.symm.trans h
  moveTo_eq_true {s t k path} h := by
    obtain ⟨bytes, names, hbytes, hnames, rfl⟩ := moveTo_eq_true h
    refine ⟨s.key names, ?_, ?_, fun hk => ?_, fun other hother hk => ?_⟩
    · change (target? _ path).map _ = _
      rw [target?_contents, hnames]
      rfl
    · exact ((Table.find?_insert ..).trans (if_pos rfl)).trans hbytes.symm
    · exact (Table.find?_insert ..).trans ((if_neg hk).trans ((Table.find?_erase ..).trans (if_pos rfl)))
    · exact (Table.find?_insert ..).trans ((if_neg hother).trans ((Table.find?_erase ..).trans (if_neg hk)))
  readText_moveTo {s t k path text} h htext := by
    obtain ⟨bytes, names, hbytes, hnames, rfl⟩ := moveTo_eq_true h
    cases hbytes.symm.trans htext
    exact text?_of_target? ((target?_contents ..).trans hnames)
      ((Table.find?_insert ..).trans (if_pos rfl))
  contents_discard s k := (Table.find?_erase ..).trans (if_pos rfl)
  sameBut_discard s k := fun other hother => (Table.find?_erase ..).trans (if_neg hother)

end Files

end OntologySchema
