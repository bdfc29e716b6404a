import GrammarForge.CommandLine.Check
import GrammarForge.Processing.Rounds
import GrammarForge.Proofs.Processing.Directories
import GrammarForge.Store.Memory

/-!
# Files that are checked and files that are processed

The command `check` reads and parses a file on its own. A processor resolves the directory of the
file before that. So the two take the same files for grammars, except for files whose directories
have absolute paths that are too long for the system.
-/

namespace GrammarForge

open FileSystem

theorem Check.checkFile_eq_valid {files : FileSystem} {path : String} {n : Nat} :
    checkFile files path = .valid n ↔
      ∃ g, Environment.standard.parseFile files path .standard = .ok (.grammar g) ∧
        g.rules.length = n := by
  unfold checkFile
  cases Environment.standard.parseFile files path .standard with
  | error e => simp
  | ok unit =>
      cases unit with
      | grammar g => simp
      | other name kind => simp
      | failed e => simp

namespace Processor

variable {δ σ ω : Type} [DiagnosticSink δ] [ArtifactStore σ ω]

theorem initStandard_environment (options : Options) (s : RunState δ σ) :
    (initStandard options s).environment = .standard := rfl

theorem initStandard_definition (options : Options) (s : RunState δ σ) :
    (initStandard options s).definition = .standard := rfl

/-- The name of a directory, 200 bytes long. -/
def longName : String := String.ofList (List.replicate 200 'd')

theorem utf8ByteSize_longName : longName.utf8ByteSize = 200 := by decide +kernel

theorem mem_longName {c : Char} (h : c ∈ longName.toList) : c = 'd' := by
  have htoList : longName.toList = List.replicate 200 'd' := String.toList_ofList
  rw [htoList] at h
  exact (List.mem_replicate.1 h).2

theorem isEntryName_longName : IsEntryName longName := by
  apply IsEntryName.of_size
  · rw [utf8ByteSize_longName]
    decide
  · rw [utf8ByteSize_longName]
    decide
  · intro h
    exact absurd (mem_longName h) (by decide)
  · intro h
    exact absurd (mem_longName h) (by decide)

theorem isShort_longNames : isShort (List.replicate 20 longName ++ [longName]) = false := by
  have hsize : (absolutePath (List.replicate 20 longName ++ [longName])).utf8ByteSize = 4221 := by
    rw [utf8ByteSize_absolutePath (by simp), List.map_append, List.map_replicate,
      List.map_singleton, utf8ByteSize_longName]
    decide
  rw [isShort, hsize]
  decide

end Processor

end GrammarForge
