import GrammarForge.Proofs.FileSystem.Growth

/-!
# Errors of file systems

The operations of a file system fail with a few errors that are known beforehand. None of them shows
a path or the content of a file.
-/

namespace GrammarForge

/-- The errors with which an operation of a file system can end. -/
def SystemError.ofFiles : List SystemError :=
  [notFound, fileExists, notADirectory, isADirectory, nameTooLong, nulInPath, notText]

open SystemError

/-- An operation fails, if it does, with an error of file systems. -/
def FailsPlainly {α : Type} (x : Except SystemError α) : Prop := ∀ e, x = .error e → e ∈ ofFiles

namespace FailsPlainly

variable {α β : Type}

@[simp] theorem ok (a : α) : FailsPlainly (.ok a) := by
  intro e h
  cases h

@[simp] theorem pure (a : α) : FailsPlainly (Pure.pure a) := ok a

@[simp] theorem error_iff {e : SystemError} :
    FailsPlainly (.error e : Except SystemError α) ↔ e ∈ ofFiles :=
  ⟨fun h => h e rfl, fun h e' he => by cases he; exact h⟩

theorem bind {x : Except SystemError α} {f : α → Except SystemError β} (hx : FailsPlainly x)
    (hf : ∀ a, FailsPlainly (f a)) : FailsPlainly (x >>= f) := by
  cases x with
  | error e => exact error_iff.2 (error_iff.1 hx)
  | ok a => exact hf a

theorem foldlM {f : β → α → Except SystemError β} (hf : ∀ b a, FailsPlainly (f b a)) (l : List α)
    (b : β) : FailsPlainly (l.foldlM f b) := by
  induction l generalizing b with
  | nil => exact ok b
  | cons a rest ih =>
      rw [List.foldlM_cons]
      exact (hf b a).bind fun next => ih next

end FailsPlainly

namespace FileSystem

variable (fs : FileSystem) (path : String)

theorem failsPlainly_checkText : FailsPlainly (checkText path) := by
  unfold checkText
  split_ifs <;> simp [ofFiles]

theorem failsPlainly_checkPath : FailsPlainly (checkPath path) := by
  refine (failsPlainly_checkText path).bind fun _ => ?_
  split_ifs <;> simp [ofFiles]

theorem failsPlainly_enter (place : Location) (part : String) :
    FailsPlainly (fs.enter place part) := by
  unfold enter
  split_ifs <;> simp [ofFiles]

theorem failsPlainly_enterAbsolute (place : Location) (part : String) :
    FailsPlainly (fs.enterAbsolute place part) := by
  unfold enterAbsolute
  split
  · simp [ofFiles]
  · exact fs.failsPlainly_enter place part

theorem failsPlainly_locate : FailsPlainly (fs.locate path) :=
  (failsPlainly_checkPath path).bind fun _ => .foldlM fs.failsPlainly_enter _ _

theorem failsPlainly_canonicalize : FailsPlainly (fs.canonicalize path) :=
  (failsPlainly_checkText path).bind fun _ =>
    (FailsPlainly.foldlM fs.failsPlainly_enterAbsolute _ _).bind fun _ => .pure _

theorem failsPlainly_locateNew : FailsPlainly (fs.locateNew path) := by
  refine (failsPlainly_checkPath path).bind fun _ => ?_
  split
  · exact .pure _
  · refine (FailsPlainly.foldlM fs.failsPlainly_enter _ _).bind fun place => ?_
    split <;> simp [ofFiles]

theorem failsPlainly_readBytes : FailsPlainly (fs.readBytes path) := by
  refine (fs.failsPlainly_locate path).bind fun place => ?_
  split <;> simp [ofFiles]

theorem failsPlainly_readText : FailsPlainly (fs.readText path) := by
  refine (fs.failsPlainly_readBytes path).bind fun bytes => ?_
  split <;> simp [ofFiles]

theorem failsPlainly_makeDirectory : FailsPlainly (fs.makeDirectory path) := by
  refine (fs.failsPlainly_locateNew path).bind fun found => ?_
  split
  · simp [ofFiles]
  · split_ifs <;> simp [ofFiles]

theorem failsPlainly_makeDirectoryIfMissing : FailsPlainly (fs.makeDirectoryIfMissing path) := by
  have hmake := fs.failsPlainly_makeDirectory path
  unfold makeDirectoryIfMissing
  split
  · exact .ok _
  · next e he =>
      split
      · exact .ok _
      · exact FailsPlainly.error_iff.2 (hmake e he)

theorem failsPlainly_makeAncestors (paths : List String) :
    FailsPlainly (fs.makeAncestors paths).1 := by
  induction paths with
  | nil => exact .ok ()
  | cons path outer ih =>
      have hmake (files : FileSystem) := files.failsPlainly_makeDirectoryIfMissing path
      rw [makeAncestors]
      cases hfirst : fs.makeDirectoryIfMissing path with
      | ok => exact .ok ()
      | error e =>
          simp only
          split
          · generalize fs.makeAncestors outer = outcome at ih ⊢
            obtain ⟨made, files⟩ := outcome
            cases made with
            | error e => exact ih
            | ok =>
                simp only
                cases hagain : files.makeDirectoryIfMissing path with
                | ok => exact .ok ()
                | error e => exact FailsPlainly.error_iff.2 (hmake files e hagain)
          · exact FailsPlainly.error_iff.2 (hmake fs e hfirst)

theorem failsPlainly_createFile : FailsPlainly (fs.createFile path) := by
  refine (fs.failsPlainly_locateNew path).bind fun found => ?_
  split
  · simp [ofFiles]
  · dsimp only
    split_ifs <;> simp [ofFiles]

theorem failsPlainly_createFileAndParents : FailsPlainly (fs.createFileAndParents path).1 := by
  have hparents := fs.failsPlainly_makeAncestors (Path.ancestors path).tail
  rw [createFileAndParents_eq]
  generalize fs.makeAncestors (Path.ancestors path).tail = outcome at hparents ⊢
  obtain ⟨made, files⟩ := outcome
  cases made with
  | error e => exact FailsPlainly.error_iff.2 (FailsPlainly.error_iff.1 hparents)
  | ok =>
      have hcreate := files.failsPlainly_createFile path
      simp only
      cases hfile : files.createFile path with
      | ok => exact .ok _
      | error e => exact FailsPlainly.error_iff.2 (hcreate e hfile)

end FileSystem

end GrammarForge
