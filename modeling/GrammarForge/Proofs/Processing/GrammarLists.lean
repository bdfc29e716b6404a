import GrammarForge.BuildScript.Compile
import GrammarForge.Proofs.Processing.AttemptTraces
import GrammarForge.Proofs.Text.Parts

/-!
# Lists of grammars

A list of paths is handed to a processor as one text. Whoever reads the text drops blank entries and
cuts at every separator. So the paths come out as they were put in, in the same order and as often,
if none of them is blank and none has the separator in it. A path below a directory is never blank.
-/

namespace GrammarForge

/-- Whether an entry of a list is kept when the list is read. -/
def isListed (path : String) : Bool := !Text.allBlank path

/-- Paths without the separator come out of a list as they were put in, but for blank ones. -/
theorem splitPaths_joinPaths {paths : List String}
    (h : ∀ path ∈ paths, pathSeparator ∉ path.toList) :
    splitPaths (joinPaths paths) = paths.filter isListed := by
  cases paths with
  | nil => decide
  | cons first rest =>
      have hsplit := Text.splitAtChar_intercalate (List.cons_ne_nil first rest) h
      rw [splitPaths, joinPaths, hsplit]
      rfl

theorem mem_splitPaths {list path : String} (h : path ∈ splitPaths list) :
    isListed path = true ∧ pathSeparator ∉ path.toList := by
  obtain ⟨hmem, hlisted⟩ := List.mem_filter.1 h
  exact ⟨hlisted, Text.notMem_of_mem_splitAtChar hmem⟩

/-- A list of paths is read back as it was written exactly if every path is one that can be read. -/
theorem splitPaths_joinPaths_eq_self_iff (paths : List String) :
    splitPaths (joinPaths paths) = paths ↔
      ∀ path ∈ paths, isListed path = true ∧ pathSeparator ∉ path.toList := by
  constructor
  · intro heq path hpath
    rw [← heq] at hpath
    exact mem_splitPaths hpath
  · intro h
    rw [splitPaths_joinPaths fun path hpath => (h path hpath).2]
    exact List.filter_eq_self.2 fun path hpath => (h path hpath).1

/-- There is a slash in every path below a directory. -/
theorem isListed_join {base : String} (hbase : base ≠ "") (path : String) :
    isListed (Path.join base path) = true := by
  have hslash : '/' ∈ (Path.join base path).toList := by
    unfold Path.join
    split_ifs with habsolute hlast
    · exact List.mem_of_mem_head? (by simpa [Path.isAbsolute] using habsolute)
    · simp only [Bool.or_eq_true, decide_eq_true_eq] at hlast
      have hend := hlast.resolve_left hbase
      simpa using .inl (List.mem_of_getLast? hend)
    · simp
  have hblank : Text.isBlank '/' = false := by decide
  simp only [isListed, Text.allBlank, Bool.not_eq_true', List.all_eq_false]
  exact ⟨'/', hslash, by simp [hblank]⟩

namespace Processor

theorem queue_init {δ σ : Type} [DiagnosticSink δ] {options : Options} {list : String}
    (h : options.get? Options.grammarsKey = some list) (environment : Environment)
    (definition : ParserDefinition) (s : RunState δ σ) :
    (init options environment definition s).queue = .ofList list := by
  simp [init, h]

end Processor

namespace BuildScript

/-- The processor of a build, once the files to watch have been printed. -/
def processorFor (paths : List String) (store : DirectoryStore) (stream : OutputStream)
    (files : FileSystem) : Processor DirectiveSink DirectoryStore :=
  .initStandard [(Options.grammarsKey, joinPaths paths)] ⟨⟨store, files⟩, .new stream⟩

theorem compileInto_eq {paths : List String} {stream : OutputStream}
    (h : (printWatched stream paths).1 = .ok ()) (store : DirectoryStore) (files : FileSystem) :
    compileInto paths store stream files =
      let p := processorFor paths store (printWatched stream paths).2 files
      let run := p.runRounds Processor.defaultMaxRounds
      ⟨verdict run.2.sink run.1, run.2.sink.stream, run.2.files⟩ := by
  unfold compileInto
  cases hprint : printWatched stream paths with
  | mk result stream =>
      rw [hprint] at h
      cases h
      rfl

/-- Where the files to watch cannot be printed, there is no processor and no file is made. -/
theorem compileInto_of_unprintable {paths : List String} {stream : OutputStream} {e : SystemError}
    (h : (printWatched stream paths).1 = .error e) (store : DirectoryStore) (files : FileSystem) :
    compileInto paths store stream files =
      ⟨.error (.unprintable e), (printWatched stream paths).2, files⟩ := by
  unfold compileInto
  cases hprint : printWatched stream paths with
  | mk result stream =>
      rw [hprint] at h
      cases h
      rfl

end BuildScript

open Processor

/-- Listed grammars that are not blank wait in the queue of a processor, in order and as often as
they are listed, and these are the ones that are attempted, if no path has the separator in it. A
build makes such a processor and runs it, and from a package of any name it drops no path. A build
that cannot print ends before it has a processor. -/
theorem listed_grammars_are_attempted {paths : List String}
    (hpaths : ∀ path ∈ paths, pathSeparator ∉ path.toList) :
    (∀ (δ σ ω : Type) [DiagnosticSink δ] [ArtifactStore σ ω] (options : Options)
        (environment : Environment) (definition : ParserDefinition) (s : RunState δ σ),
      let p := Processor.init (options.set Options.grammarsKey (joinPaths paths)) environment
        definition s
      p.queue = .ofPaths (paths.filter isListed) ∧
        ∀ calls : List Call, calls ≠ [] →
          attempted (callsTrace calls p) = paths.filter isListed) ∧
    ∀ (package out : String) (grammars : List String) (stream : OutputStream) (files : FileSystem),
      grammars.map (Path.join package) = paths →
      ((BuildScript.printWatched stream paths).1 = .ok () →
        ∃ p : Processor DirectiveSink DirectoryStore,
          p.queue = .ofPaths (paths.filter isListed) ∧
          attempted (p.runRoundsTrace defaultMaxRounds) = paths.filter isListed ∧
          (package ≠ "" → paths.filter isListed = paths) ∧
          BuildScript.compile ⟨some package, some out⟩ grammars stream files =
            let run := p.runRounds defaultMaxRounds
            ⟨BuildScript.verdict run.2.sink run.1, run.2.sink.stream, run.2.files⟩) ∧
      ∀ e, (BuildScript.printWatched stream paths).1 = .error e →
        BuildScript.compile ⟨some package, some out⟩ grammars stream files =
          ⟨.error (.unprintable e), (BuildScript.printWatched stream paths).2, files⟩ := by
  have hlist : GrammarQueue.ofList (joinPaths paths) = .ofPaths (paths.filter isListed) := by
    rw [GrammarQueue.ofList, splitPaths_joinPaths hpaths]
  constructor
  · intro δ σ ω _ _ options environment definition s p
    have hqueue : p.queue = .ofPaths (paths.filter isListed) := by
      rw [← hlist]
      exact queue_init (Options.get?_set_self ..) environment definition s
    exact ⟨hqueue, fun calls hcalls => attempted_callsTrace hqueue hcalls⟩
  · intro package out grammars stream files hgrammars
    let store := DirectoryStore.new (Path.join out BuildScript.outputName)
      [Path.join package BuildScript.sourceName]
    have hcompile : BuildScript.compile ⟨some package, some out⟩ grammars stream files =
        BuildScript.compileInto (grammars.map (Path.join package)) store stream files := rfl
    rw [hcompile, hgrammars]
    refine ⟨fun hprint => ?_, fun e hprint => BuildScript.compileInto_of_unprintable hprint _ _⟩
    let p := BuildScript.processorFor paths store (BuildScript.printWatched stream paths).2 files
    have hqueue : p.queue = .ofPaths (paths.filter isListed) := by
      rw [← hlist]
      exact queue_init rfl _ _ _
    have hcalls := attempted_callsTrace hqueue (List.cons_ne_nil (.rounds defaultMaxRounds) [])
    refine ⟨p, hqueue, by simpa [callsTrace, Call.trace] using hcalls, fun hpackage => ?_,
      BuildScript.compileInto_eq hprint store files⟩
    rw [← hgrammars]
    refine List.filter_eq_self.2 fun path hpath => ?_
    obtain ⟨grammar, -, rfl⟩ := List.mem_map.1 hpath
    exact isListed_join hpackage grammar

/-- One grammar is listed twice, and a blank entry stands between. A build in `/p` looks for the
blank path there. -/
theorem listed_grammars_around_blank :
    (∀ path ∈ ["b.bnf", " ", "b.bnf"], pathSeparator ∉ path.toList) ∧
    (Processor.init (Options.set Options.grammarsKey (joinPaths ["b.bnf", " ", "b.bnf"]) [])
      (.empty .light) .standard (⟨⟨.new [] [], .empty⟩, []⟩ :
        RunState (List Diagnostic) MemoryStore)).queue = .ofPaths ["b.bnf", "b.bnf"] ∧
    (∀ path ∈ ["/p/b.bnf", "/p/ "], pathSeparator ∉ path.toList) ∧
    (BuildScript.printWatched .unlimited ["/p/b.bnf", "/p/ "]).1 = .ok () ∧
    ∃ p : Processor DirectiveSink DirectoryStore,
      attempted (p.runRoundsTrace defaultMaxRounds) = ["/p/b.bnf", "/p/ "] ∧
      (BuildScript.compile ⟨some "/p", some "/o"⟩ ["b.bnf", " "] .unlimited .empty).stream =
        (p.runRounds defaultMaxRounds).2.sink.stream := by
  have hgiven : ∀ path ∈ ["b.bnf", " ", "b.bnf"], pathSeparator ∉ path.toList := by decide
  have hjoined : ∀ path ∈ ["/p/b.bnf", "/p/ "], pathSeparator ∉ path.toList := by decide
  have hprint : (BuildScript.printWatched .unlimited ["/p/b.bnf", "/p/ "]).1 = .ok () := rfl
  have hqueue := ((listed_grammars_are_attempted hgiven).1 (List Diagnostic) MemoryStore Nat []
    (.empty .light) .standard ⟨⟨.new [] [], .empty⟩, []⟩).1
  obtain ⟨hbuild, -⟩ := (listed_grammars_are_attempted hjoined).2 "/p" "/o" ["b.bnf", " "]
    .unlimited .empty (by decide)
  obtain ⟨p, -, hattempted, hall, hcompile⟩ := hbuild hprint
  refine ⟨hgiven, hqueue, hjoined, hprint, p, ?_, ?_⟩
  · rw [hattempted, hall (by decide)]
  · rw [hcompile]

/-- A blank path does not come out of a list, and a path with the separator in it comes out as two
others. On a full stream no grammar comes to its turn. -/
theorem blank_and_divided_paths_are_lost :
    let queueOf (paths : List String) : GrammarQueue :=
      (Processor.initStandard (Options.set Options.grammarsKey (joinPaths paths) [])
        (⟨⟨.new [] [], .empty⟩, []⟩ : RunState (List Diagnostic) MemoryStore)).queue
    queueOf [" "] = .ofPaths [] ∧
      queueOf (["a:b.bnf"].map (Path.join "/p")) = .ofPaths ["/p/a", "b.bnf"] ∧
      (BuildScript.compile ⟨some "/p", some "/o"⟩ ["b.bnf"] (.limited 0 .storageFull) .empty =
        ⟨.error (.unprintable .storageFull), .limited 0 .storageFull, .empty⟩) ∧
      ¬ ∀ paths, queueOf paths = .ofPaths paths := by
  intro queueOf
  have hblank : queueOf [" "] = .ofPaths [] := by decide +kernel
  refine ⟨hblank, by decide +kernel, rfl, fun hall => ?_⟩
  rw [hall [" "]] at hblank
  exact absurd hblank (by decide)

end GrammarForge
