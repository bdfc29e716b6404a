import GrammarForge.Proofs.FileSystem.Reading
import GrammarForge.Proofs.Processing.Reports
import Mathlib

/-!
# Directories of grammars

The directory of a grammar is resolved before the grammar is read. For a file that can be read this
fails only where an absolute path on the way is too long.
-/

namespace GrammarForge

open FileSystem

section Reading

variable {environment : Environment} {definition : ParserDefinition} {files : FileSystem}
variable {path : String}

theorem Environment.readBytes_of_parseFile {unit : ParsedUnit}
    (h : environment.parseFile files path definition = .ok unit) :
    ∃ content, files.readBytes path = .ok content := by
  unfold parseFile readText at h
  cases hread : files.readBytes path with
  | error e =>
      rw [hread] at h
      cases h
  | ok content => exact ⟨content, rfl⟩

theorem Environment.parseFile_grammarPath {place : Location} {name text : String}
    (h : IsEntryName name) :
    environment.parseFile (withGrammar place name text) (grammarPath name) .standard =
      .ok (.ofResult (environment.parseGrammar (grammarPath name) text)) := by
  have hparse : environment.parseText (grammarPath name) text .standard =
      .ofResult (environment.parseGrammar (grammarPath name) text) :=
    if_pos (extension_grammarPath h)
  rw [parseFile, readText_grammarPath h]
  exact congrArg Except.ok hparse

namespace Attempt

/-- The directory is resolved before the file is read. -/
theorem readGrammar_of_unresolved {e : SystemError}
    (h : files.canonicalize (directoryOf path) = .error e) :
    readGrammar environment definition files path = .error (.unresolved (directoryOf path) e) := by
  simp only [readGrammar, h]
  rfl

theorem readGrammar_eq_ok {base : String} {g : Grammar} :
    readGrammar environment definition files path = .ok (base, g) ↔
      files.canonicalize (directoryOf path) = .ok base ∧
        environment.parseFile files path definition = .ok (.grammar g) := by
  unfold readGrammar
  cases hbase : files.canonicalize (directoryOf path) with
  | error e => simp [hbase, Except.mapError, bind, Except.bind]
  | ok found =>
      cases hunit : environment.parseFile files path definition with
      | error e => simp [hbase, Except.mapError, bind, Except.bind]
      | ok unit =>
          cases unit with
          | grammar g' => simp [hbase, Except.mapError, bind, Except.bind, pure, Except.pure]
          | other name kind => simp [hbase, Except.mapError, bind, Except.bind]
          | failed e => simp [hbase, Except.mapError, bind, Except.bind]

/-- A file that can be read and parsed is handed to the generator, unless its directory cannot be
named. -/
theorem readGrammar_of_parseFile {g : Grammar}
    (h : environment.parseFile files path definition = .ok (.grammar g)) : ∃ base,
      readGrammar environment definition files path =
        if files.hasShortWay (directoryOf path) then .ok (base, g)
        else .error (.unresolved (directoryOf path) .nameTooLong) := by
  obtain ⟨content, hread⟩ := Environment.readBytes_of_parseFile h
  obtain ⟨base, hbase⟩ := canonicalize_directoryOf hread
  refine ⟨base, ?_⟩
  cases hshort : files.hasShortWay (directoryOf path) with
  | true =>
      rw [hshort, if_pos rfl] at hbase
      rw [if_pos rfl]
      exact readGrammar_eq_ok.2 ⟨hbase, h⟩
  | false =>
      rw [hshort, if_neg Bool.false_ne_true] at hbase
      rw [if_neg Bool.false_ne_true]
      exact readGrammar_of_unresolved hbase

/-- The grammar of a file system with one is read. -/
theorem readGrammar_grammarPath {text : String} {g : Grammar}
    (h : Environment.standard.parseGrammar (grammarPath "d") text = .ok g) : ∃ base,
      readGrammar .standard .standard (withGrammar ["w"] "d" text) (grammarPath "d") =
        .ok (base, g) := by
  have hfile : Environment.standard.parseFile (withGrammar ["w"] "d" text) (grammarPath "d")
      .standard = .ok (.grammar g) := by
    rw [Environment.parseFile_grammarPath isEntryName_d, h]
    rfl
  obtain ⟨base, hread⟩ := readGrammar_of_parseFile hfile
  rw [hasShortWay_grammarPath isEntryName_d, if_pos (by decide)] at hread
  exact ⟨base, hread⟩

end Attempt

end Reading

namespace RunState

variable {δ σ ω : Type} [DiagnosticSink δ] [ArtifactStore σ ω]
variable {environment : Environment} {definition : ParserDefinition}

/-- Once there is a grammar, only generation can fail. -/
theorem generation_of_readGrammar {path base : String} {g : Grammar} {s : RunState δ σ}
    {e : AttemptError}
    (h : Attempt.readGrammar environment definition s.files path = .ok (base, g))
    (hfail : (s.attempt environment definition path).1 = .error e) :
    ∃ cause, e = .generation cause := by
  rw [attempt_of_plan environment definition (Attempt.planOf_of_ok h)] at hfail
  cases hrun : ((Generation.Request.plan ⟨g, base, "", ""⟩).run host s).1 with
  | ok names =>
      rw [hrun] at hfail
      cases hfail
  | error cause =>
      rw [hrun] at hfail
      cases hfail
      exact ⟨cause, rfl⟩

end RunState

end GrammarForge
