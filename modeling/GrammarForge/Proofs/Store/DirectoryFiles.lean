import GrammarForge.Proofs.Store.BufferedFiles
import GrammarForge.Store.Directory
import GrammarForge.Store.Emission

/-!
# The files of a store in a directory

A name has its file below the output directory. To make the file only that directory, those on the
way to it and some below it are made. A text that is no name has no file, and a store never takes it
down as created.
-/

namespace GrammarForge

open FileSystem GrammarForge.Path

/-- Whether a place is that of a directory, of one on the way to it, or of something below it. -/
def FileSystem.isAround (fs : FileSystem) (directory : String) (place : Location) : Prop :=
  (∃ a ∈ ancestors directory, place = fs.placeOf a) ∨ fs.placeOf directory <+: place

theorem FileSystem.isAround_congr {fs fs' : FileSystem} (h : fs'.current = fs.current)
    (directory : String) : fs'.isAround directory = fs.isAround directory := by
  funext place
  simp only [isAround, placeOf_congr h]

namespace DirectoryStore

variable {s : DirectoryStore} {n : LogicalName} {files : FileSystem}

/-- The path of the file of a name. -/
def filePath (s : DirectoryStore) (n : LogicalName) : String :=
  Path.join s.outDirectory n.relativePath

theorem relativePath_text (n : LogicalName) : relativePath n.text = .ok n.relativePath := by
  rw [relativePath, n.parse_text]

theorem pathOf_text (s : DirectoryStore) (n : LogicalName) :
    s.pathOf n.text = .ok (s.filePath n) := by
  rw [pathOf, relativePath_text]
  rfl

theorem placeOf_filePath : files.placeOf (s.filePath n) =
    files.placeOf s.outDirectory ++ n.fileComponents := placeOf_join n

/-- Only names with the same relative path share a file. -/
theorem relativePath_eq_of_placeOf {m : LogicalName}
    (h : files.placeOf (s.filePath n) = files.placeOf (s.filePath m)) :
    n.relativePath = m.relativePath := by
  rw [placeOf_filePath, placeOf_filePath] at h
  exact LogicalName.relativePath_eq_iff.2 (List.append_cancel_left h)

/-- The directories on the way to a file. -/
theorem isAround_of_onTheWay {place : Location} (h : files.onTheWay (s.filePath n) place) :
    files.isAround s.outDirectory place := by
  obtain ⟨a, ha, rfl⟩ := h
  rcases @mem_ancestors_join files _ _ _ (List.mem_of_mem_tail ha) with hout | hbelow
  · exact .inl ⟨a, hout, rfl⟩
  · exact .inr hbelow

theorem isHandWritten_text : s.isHandWritten n.text files =
    s.sourceRoots.any fun root => files.isFileAt (Path.join root n.relativePath) := by
  rw [isHandWritten, relativePath_text]

/-- A file in place is the contents of the artifact. -/
theorem contents?_text {place : Location} {content : Bytes}
    (hlocate : files.locate (s.filePath n) = .ok place)
    (hnode : files.node? place = some (.file content)) :
    s.contents? n.text files = some content := by
  have hread : files.readBytes (s.filePath n) = .ok content :=
    readBytes_eq_ok.2 ⟨place, hlocate, hnode⟩
  rw [contents?, pathOf_text]
  simp only [hread]
  rfl

theorem createFile_text (h : n.text ∉ s.created) (files : FileSystem) :
    s.createFile n.text files =
      ((files.createFileAndParents (s.filePath n)).1.map .new,
        (files.createFileAndParents (s.filePath n)).2) := by
  rw [createFile, if_neg (by simpa using h), pathOf_text]

/-- A name that is new is requested by making its file. -/
theorem request_of_new {w : Workspace DirectoryStore}
    (h : w.store.contains n.text w.files = false) :
    w.request n.text =
      match w.files.createFileAndParents (w.store.filePath n) with
      | (.error e, files) => (.error e, { w with files })
      | (.ok place, files) => (.ok (.artifact (.new place)), ⟨w.store.record n.text, files⟩) := by
  have hdecision : w.decisionFor n.text = .write := if_neg (ne_true_of_eq_false h)
  have hnew : n.text ∉ w.store.created := by
    have hcreated := (Bool.or_eq_false_iff.1 h).1
    simpa using hcreated
  simp only [Workspace.request, hdecision, ArtifactStore.create, createFile_text hnew]
  cases w.files.createFileAndParents (w.store.filePath n) with
  | mk result files => cases result <;> rfl

/-- The states in which a store can be. -/
inductive Reached : DirectoryStore → Prop
  | new (outDirectory : String) (sourceRoots : List String) : Reached (new outDirectory sourceRoots)
  | create (name : String) (w : Workspace DirectoryStore) :
      Reached w.store → Reached (ArtifactStore.create name w).2.store
  | takeCreated {s : DirectoryStore} : Reached s → Reached (ArtifactStore.takeCreated s).2

/-- A file is made for a name only. -/
theorem parse_of_createFile {name : String} {writer : BufferedFile} {files' : FileSystem}
    (h : s.createFile name files = (.ok writer, files')) : ∃ n, LogicalName.parse name = .ok n := by
  unfold createFile at h
  split at h
  · cases h
  · cases hparse : LogicalName.parse name with
    | ok n => exact ⟨n, rfl⟩
    | error e =>
        rw [pathOf, relativePath, hparse] at h
        cases h

/-- What a store has created are names. -/
theorem Reached.parse_ok (h : Reached s) :
    ∀ name ∈ s.created, ∃ n, LogicalName.parse name = .ok n := by
  induction h with
  | new outDirectory sourceRoots => simp [DirectoryStore.new]
  | create name w _ ih =>
      simp only [ArtifactStore.create]
      cases hcreate : w.store.createFile name w.files with
      | mk result files =>
          cases result with
          | error e => exact ih
          | ok writer =>
              intro other hother
              rcases List.mem_append.1 hother with hbefore | hnew
              · exact ih other hbefore
              · rw [List.mem_singleton.1 hnew]
                exact parse_of_createFile hcreate
  | takeCreated _ ih => exact ih

/-- To create what is no name fails and changes nothing. -/
theorem create_of_parse_error {w : Workspace DirectoryStore} (h : Reached w.store) {name : String}
    {e : NameError} (hname : LogicalName.parse name = .error e) :
    ArtifactStore.create name w = (.error ⟨.invalidInput, e.message⟩, w) := by
  have hcreated : name ∉ w.store.created := by
    intro hmem
    obtain ⟨n, hn⟩ := h.parse_ok name hmem
    rw [hname] at hn
    cases hn
  have hpath : w.store.pathOf name = .error ⟨.invalidInput, e.message⟩ := by
    rw [pathOf, relativePath, hname]
    rfl
  have hfile : w.store.createFile name w.files = (.error ⟨.invalidInput, e.message⟩, w.files) := by
    rw [createFile, if_neg (by simpa using hcreated), hpath]
  simp only [ArtifactStore.create, hfile]

end DirectoryStore

end GrammarForge
