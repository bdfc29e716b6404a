import GrammarForge.Proofs.BuildScript.LimitedOutput
import GrammarForge.Proofs.Processing.DiagnosticLines
import GrammarForge.Proofs.Processing.RoundLoop
import Mathlib

/-!
# The lines of a build

The build tool reads the output of a build line by line. There is one line for each file to watch
and one for each diagnostic, as long as no diagnostic goes over the end of a line. Whether one does
depends on the grammars: diagnostics are printed as they are, and some show a part of a grammar, or
the place it was found in, in which a line may end.
-/

namespace GrammarForge.BuildScript

open DiagnosticSink DirectiveSink FileSystem Generation

/-- A text is cut into the lines it was made of exactly if these are lines. -/
theorem linesOf_textOf_iff (lines : List String) :
    Code.linesOf (Code.textOf lines) = lines ++ [""] ↔ ∀ line ∈ lines, OneLine line := by
  constructor
  · intro h line hline
    have hmem : line ∈ Code.linesOf (Code.textOf lines) := by
      rw [h]
      exact List.mem_append_left _ hline
    exact Text.notMem_of_mem_splitAtChar hmem
  · exact Code.linesOf_textOf

theorem oneLine_of_mem_splitPaths {paths : List String} (h : ∀ path ∈ paths, OneLine path) :
    ∀ path ∈ splitPaths (joinPaths paths), OneLine path := by
  have hseparator : '\n' ≠ pathSeparator := by decide
  intro path hpath hmem
  have hpart : path ∈ Text.splitAtChar pathSeparator (joinPaths paths) :=
    List.mem_of_mem_filter hpath
  have hjoin : pathSeparator.toString.intercalate
      (Text.splitAtChar pathSeparator (joinPaths paths)) = joinPaths paths :=
    Text.intercalate_splitAtChar (joinPaths paths)
  have hjoined : '\n' ∈ (joinPaths paths).toList := by
    rw [← hjoin]
    exact (Text.mem_intercalate hseparator).2 ⟨path, hpart, hmem⟩
  obtain ⟨other, hother, hmem⟩ := (Text.mem_intercalate hseparator).1 hjoined
  exact h other hother hmem

theorem oneLine_watchDirective (path : String) : OneLine (watchDirective path) ↔ OneLine path := by
  unfold watchDirective
  simp +decide

theorem oneLine_directive (d : Diagnostic) : OneLine (directive d) ↔ OneLine d.text := by
  unfold directive
  simp +decide

/-- Whether a line ends within a part of a grammar or within a place that one of the attempts at
these grammars shows. -/
def breaksLine : List String → Workspace DirectoryStore → Bool
  | [], _ => false
  | path :: rest, w =>
    Attempt.breaksLine (Attempt.readGrammar .standard .standard w.files path) ||
      breaksLine rest (RunState.workspaceAfter .standard .standard path w)

theorem oneLine_blocks_iff {paths : List String} (h : ∀ path ∈ paths, OneLine path)
    (w : Workspace DirectoryStore) :
    (∀ d ∈ (RunState.blocks .standard .standard paths w).flatten, OneLine d.text) ↔
      breaksLine paths w = false := by
  induction paths generalizing w with
  | nil => simp [RunState.blocks, breaksLine]
  | cons path rest ih =>
      obtain ⟨hpath, hrest⟩ := List.forall_mem_cons.1 h
      rw [RunState.blocks, List.flatten_cons, List.forall_mem_append,
        RunState.oneLine_diagnosticsOf_iff hpath, ih hrest, breaksLine, Bool.or_eq_false_iff]

theorem isUsable_standard : Processor.isUsable .standard .standard = true := by decide +kernel

/-- A build reports what its attempts report, and perhaps that there were too many rounds. -/
theorem reported_eq (paths : List String) (store : DirectoryStore) (files : FileSystem) :
    ∃ limit : List Diagnostic, (∀ d ∈ limit, OneLine d.text) ∧
      reported paths store files =
        (RunState.blocks .standard .standard (splitPaths (joinPaths paths))
          (⟨store, files⟩ : Workspace DirectoryStore)).flatten ++ limit := by
  let p : Processor (List Diagnostic) DirectoryStore :=
    .initStandard [(Options.grammarsKey, joinPaths paths)] ⟨⟨store, files⟩, []⟩
  have hstate : p.toRunState = ⟨⟨store, files⟩, []⟩ := by
    simp only [p, Processor.initStandard, Processor.init]
    exact if_pos isUsable_standard
  have hqueue : p.queue = .ofList (joinPaths paths) := Processor.queue_init rfl _ _ _
  have henvironment : p.environment = .standard := rfl
  have hdefinition : p.definition = .standard := rfl
  have hblocks : p.blocks p.queue.pending =
      RunState.blocks .standard .standard (splitPaths (joinPaths paths)) ⟨store, files⟩ := by
    rw [Processor.blocks, hqueue, hstate, henvironment, hdefinition, GrammarQueue.ofList,
      GrammarQueue.ofPaths]
  let limit := max Processor.defaultMaxRounds 1
  have hlimit : OneLine (Diagnostic.warning (Processor.limitMessage limit)).text := by
    decide +kernel
  refine ⟨if [] ∈ p.answers limit then [] else [.warning (Processor.limitMessage limit)], ?_, ?_⟩
  · split <;> simp [hlimit]
  · change (p.runRounds Processor.defaultMaxRounds).2.sink = _
    rw [Processor.runRounds_of_answers, Processor.sink_closeRounds,
      Processor.sink_afterRounds_succ, emitAll_list, emitAll_list, hblocks, hstate,
      List.nil_append]

/-- A line that starts as the lines of a build do. -/
def IsDirective (line : String) : Prop :=
  "cargo:rerun-if-changed=".toList <+: line.toList ∨ "cargo:warning=".toList <+: line.toList

instance (line : String) : Decidable (IsDirective line) := inferInstanceAs (Decidable (_ ∨ _))

theorem isDirective_of_mem {paths : List String} {store : DirectoryStore} {files : FileSystem}
    {line : String} (h : line ∈ outputLines paths store files) : IsDirective line := by
  rcases List.mem_append.1 h with h | h
  · obtain ⟨path, -, rfl⟩ := List.mem_map.1 h
    exact .inl ⟨path.toList, String.toList_append.symm⟩
  · obtain ⟨d, -, rfl⟩ := List.mem_map.1 h
    exact .inr ⟨d.text.toList, String.toList_append.symm⟩

/-- A build prints a directive for each file to watch and for each diagnostic. These are its lines
exactly if no attempt shows something in which a line ends, and then it prints nothing but
directives. -/
theorem lines_are_directives_iff {paths : List String} (h : ∀ path ∈ paths, OneLine path)
    (store : DirectoryStore) (files : FileSystem) :
    let lines := outputLines paths store files
    let text := Code.textOf lines
    let isUnbroken := breaksLine (splitPaths (joinPaths paths)) ⟨store, files⟩ = false
    (compileInto paths store .unlimited files).stream.taken = encodeText text ∧
      lines = paths.map watchDirective ++ (listedRun paths store files).2.sink.map directive ∧
      (∀ line ∈ lines, IsDirective line) ∧
      (Code.linesOf text = lines ++ [""] ↔ isUnbroken) ∧
      (isUnbroken → ∀ line ∈ Code.linesOf text, line ≠ "" → IsDirective line) := by
  intro lines text isUnbroken
  have hlines : Code.linesOf text = lines ++ [""] ↔ isUnbroken := by
    have hwatched : ∀ line ∈ paths.map watchDirective, OneLine line := by
      simpa only [List.forall_mem_map, oneLine_watchDirective] using h
    obtain ⟨limit, hlimit, hreported⟩ := reported_eq paths store files
    have hdiagnostics : (∀ line ∈ lines, OneLine line) ↔
        ∀ d ∈ reported paths store files, OneLine d.text := by
      simp only [lines, outputLines]
      rw [List.forall_mem_append, and_iff_right hwatched]
      simp only [List.forall_mem_map, oneLine_directive, reported]
    rw [linesOf_textOf_iff, hdiagnostics, hreported, List.forall_mem_append, and_iff_left hlimit]
    exact oneLine_blocks_iff (oneLine_of_mem_splitPaths h) _
  refine ⟨?_, rfl, fun line => isDirective_of_mem, hlines, fun hunbroken line hline hne => ?_⟩
  · rw [compileInto_unlimited]
    rfl
  · rw [hlines.2 hunbroken, List.mem_append, List.mem_singleton] at hline
    exact isDirective_of_mem (hline.resolve_right hne)

/-- A name with a space in it is shown in one line. -/
theorem lines_of_spaced_name :
    let paths := [grammarPath "d"]
    let files := withGrammar ["w"] "d" "\x7b parserClass = \"a b\" \x7d a ::= B"
    let shown := "cargo:warning=error: invalid parserClass attribute: " ++
      "invalid artifact name 'a b': 'a b' is not an identifier"
    (∀ path ∈ paths, OneLine path) ∧
      Code.linesOf (Code.textOf (outputLines paths (.new "out" []) files)) =
        ["cargo:rerun-if-changed=d/g.bnf", shown, ""] ∧
      IsDirective shown := by
  intro paths files shown
  have hpaths : ∀ path ∈ paths, OneLine path := by decide
  have hunbroken : breaksLine (splitPaths (joinPaths paths)) ⟨.new "out" [], files⟩ = false := by
    decide +kernel
  have houtput : outputLines paths (.new "out" []) files =
      ["cargo:rerun-if-changed=d/g.bnf", shown] := by decide +kernel
  obtain ⟨-, -, hdirectives, hlines, -⟩ :=
    lines_are_directives_iff hpaths (.new "out" []) files
  simp only [houtput] at hdirectives hlines ⊢
  exact ⟨hpaths, hlines.2 hunbroken, hdirectives shown (by simp)⟩

/-- What follows a line feed in a name is printed as a line of its own. -/
theorem escape_ends_line :
    let paths := [grammarPath "d"]
    let files := withGrammar ["w"] "d" "\x7b parserClass = \"a\\ncargo:rustc-cfg=b\" \x7d a ::= B"
    let text := "cargo:rerun-if-changed=d/g.bnf\n" ++
      "cargo:warning=error: invalid parserClass attribute: " ++
      "invalid artifact name 'a\ncargo:rustc-cfg=b': 'a\ncargo:rustc-cfg=b' is not an identifier\n"
    (∀ path ∈ paths, OneLine path) ∧
      (compileInto paths (.new "out" []) .unlimited files).stream.taken = encodeText text ∧
      ¬ ∀ line ∈ Code.linesOf text, line ≠ "" → IsDirective line := by
  intro paths files text
  exact ⟨by decide, by decide +kernel, by decide +kernel⟩

end GrammarForge.BuildScript
