import GrammarForge.Proofs.FileSystem.Growth
import GrammarForge.Store.BufferedFile

/-!
# What buffered files write

What a writer was given is in its file up to some point, and from there on in its buffer. However
the pieces are cut, the file has all of them once the buffer is flushed, and no other file is
touched.
-/

namespace GrammarForge

open FileSystem

namespace FileSystem

/-- Bytes that are written at the end of the content are appended to it. -/
theorem overwrite_length (content bytes : Bytes) :
    overwrite content content.length bytes = content ++ bytes := by
  unfold overwrite
  split
  · rename_i hempty
    rw [hempty, List.append_nil]
  · simp

theorem writeAt_grows (fs : FileSystem) (place : Location) (offset : Nat) (bytes : Bytes) :
    Grows nowhere (· = place) fs (fs.writeAt place offset bytes) := by
  unfold writeAt
  cases hnode : fs.node? place with
  | none => exact Grows.refl fs
  | some node =>
      cases node with
      | directory => exact Grows.refl fs
      | file content =>
          have hne : place ≠ [] := by
            rintro rfl
            cases hnode
          exact Grows.of_set_file hne (by simp [isDirectory, hnode]) _

end FileSystem

namespace BufferedFile

variable {w : BufferedFile} {files files' : FileSystem} {text : Bytes}

/-- The writer has been given `text`. Its file has the front part, up to where the next byte goes,
and its buffer the rest. -/
def Holds (w : BufferedFile) (files : FileSystem) (text : Bytes) : Prop :=
  ∃ content, files.node? w.place = some (.file content) ∧ w.offset = content.length ∧
    content ++ w.pending = text

@[simp] theorem new_place (place : Location) : (new place).place = place := rfl

theorem holds_new {place : Location} (h : files.node? place = some (.file [])) :
    (new place).Holds files [] := ⟨[], h, rfl, rfl⟩

/-- A writer holds what it was given as long as nobody else writes to its file. -/
theorem Holds.frame {made written : Location → Prop} (h : w.Holds files text)
    (hgrows : Grows made written files files') (hwritten : ¬ written w.place) :
    w.Holds files' text := by
  obtain ⟨content, hnode, hrest⟩ := h
  exact ⟨content, hgrows.file_eq hnode hwritten, hrest⟩

/-- Once the buffer is empty, the file has everything. -/
theorem Holds.node? (h : w.Holds files text) (hpending : w.pending = []) :
    files.node? w.place = some (.file text) := by
  obtain ⟨content, hnode, -, htext⟩ := h
  rw [hpending, List.append_nil] at htext
  rw [hnode, htext]

theorem pass_grows (w : BufferedFile) (bytes : Bytes) (files : FileSystem) :
    Grows nowhere (· = w.place) files (w.pass bytes files).2 := writeAt_grows ..

theorem Holds.pass (h : w.Holds files text) (hpending : w.pending = []) (bytes : Bytes) :
    (w.pass bytes files).1.Holds (w.pass bytes files).2 (text ++ bytes) := by
  obtain ⟨content, hnode, hoffset, htext⟩ := h
  have hne : w.place ≠ [] := by
    intro hplace
    rw [hplace] at hnode
    cases hnode
  rw [hpending, List.append_nil] at htext
  subst htext
  refine ⟨content ++ bytes, ?_, ?_, ?_⟩
  · simp only [BufferedFile.pass, writeAt, hnode, hoffset, overwrite_length]
    rw [node?_set hne, if_pos rfl]
  · simp [BufferedFile.pass, hoffset]
  · simp [BufferedFile.pass, hpending]

@[simp] theorem flush_place (w : BufferedFile) (files : FileSystem) :
    (w.flush files).1.place = w.place := rfl

@[simp] theorem flush_pending (w : BufferedFile) (files : FileSystem) :
    (w.flush files).1.pending = [] := rfl

theorem flush_grows (w : BufferedFile) (files : FileSystem) :
    Grows nowhere (· = w.place) files (w.flush files).2 := pass_grows { w with pending := [] } ..

theorem Holds.flush (h : w.Holds files text) : (w.flush files).1.Holds (w.flush files).2 text := by
  obtain ⟨content, hnode, hoffset, rfl⟩ := h
  have hemptied : { w with pending := [] }.Holds files content :=
    ⟨content, hnode, hoffset, List.append_nil content⟩
  exact hemptied.pass rfl w.pending

/-- After a flush the file has everything. -/
theorem Holds.node?_flush (h : w.Holds files text) :
    (w.flush files).2.node? w.place = some (.file text) := h.flush.node? rfl

/-- What a writer does before it takes a piece of this size. -/
def makeRoom (size : Nat) (w : BufferedFile) (files : FileSystem) : BufferedFile × FileSystem :=
  if w.spare < size then w.flush files else (w, files)

theorem write_eq (bytes : Bytes) (w : BufferedFile) (files : FileSystem) :
    w.write bytes files =
      if capacity ≤ bytes.length then
        (w.makeRoom bytes.length files).1.pass bytes (w.makeRoom bytes.length files).2
      else
        ({ (w.makeRoom bytes.length files).1 with
            pending := (w.makeRoom bytes.length files).1.pending ++ bytes },
          (w.makeRoom bytes.length files).2) := rfl

@[simp] theorem makeRoom_place (size : Nat) (w : BufferedFile) (files : FileSystem) :
    (w.makeRoom size files).1.place = w.place := by
  unfold makeRoom
  split <;> rfl

/-- A piece of the size of the buffer has room in an empty buffer only. -/
theorem makeRoom_pending {size : Nat} (h : capacity ≤ size) (w : BufferedFile)
    (files : FileSystem) : (w.makeRoom size files).1.pending = [] := by
  unfold makeRoom
  split
  · rfl
  · rename_i hspare
    have hpositive : 0 < capacity := by decide
    unfold spare at hspare
    have hlength : w.pending.length = 0 := by omega
    exact List.length_eq_zero_iff.1 hlength

theorem makeRoom_grows (size : Nat) (w : BufferedFile) (files : FileSystem) :
    Grows nowhere (· = w.place) files (w.makeRoom size files).2 := by
  unfold makeRoom
  split
  · exact flush_grows ..
  · exact Grows.refl files

theorem Holds.makeRoom (h : w.Holds files text) (size : Nat) :
    (w.makeRoom size files).1.Holds (w.makeRoom size files).2 text := by
  unfold BufferedFile.makeRoom
  split
  · exact h.flush
  · exact h

theorem write_place (bytes : Bytes) (w : BufferedFile) (files : FileSystem) :
    (w.write bytes files).1.place = w.place := by
  rw [write_eq]
  split
  · exact makeRoom_place ..
  · exact makeRoom_place ..

theorem write_grows (bytes : Bytes) (w : BufferedFile) (files : FileSystem) :
    Grows nowhere (· = w.place) files (w.write bytes files).2 := by
  have hroom := w.makeRoom_grows bytes.length files
  rw [write_eq]
  split
  · have hpass := pass_grows (w.makeRoom bytes.length files).1 bytes
      (w.makeRoom bytes.length files).2
    rw [makeRoom_place] at hpass
    exact hroom.trans hpass
  · exact hroom

theorem Holds.write (h : w.Holds files text) (bytes : Bytes) :
    (w.write bytes files).1.Holds (w.write bytes files).2 (text ++ bytes) := by
  have hroom := h.makeRoom bytes.length
  rw [write_eq]
  split
  · rename_i hlarge
    exact hroom.pass (makeRoom_pending hlarge w files) bytes
  · obtain ⟨content, hnode, hoffset, htext⟩ := hroom
    refine ⟨content, hnode, hoffset, ?_⟩
    rw [← htext, List.append_assoc]

end BufferedFile

end GrammarForge
