import GrammarForge.Proofs.FileSystem.Errors
import GrammarForge.Proofs.Generation.Messages
import GrammarForge.Proofs.Processing.Directories
import GrammarForge.Proofs.Processing.Requests
import GrammarForge.Proofs.Store.DirectoryFiles

/-!
# Diagnostics and lines

What is reported about a grammar is put together from messages, each of which may show parts of the
grammar. The file with the grammar decides whether a line ends within a diagnostic, together with
the path that is shown if it is no grammar.
-/

namespace GrammarForge

open Generation

theorem oneLine_intercalate {separator : String} (h : OneLine separator) (parts : List String) :
    OneLine (separator.intercalate parts) ↔ ∀ part ∈ parts, OneLine part := by
  induction parts with
  | nil => simp +decide
  | cons first rest ih =>
      cases rest with
      | nil => simp
      | cons next rest =>
          rw [String.intercalate_cons_cons, oneLine_append, oneLine_append, ih]
          simp [h]

theorem Diagnostic.oneLine_text (d : Diagnostic) : OneLine d.text ↔ OneLine d.message := by
  have hseverity : OneLine d.severity.text := by cases d.severity <;> decide
  unfold text
  simp +decide [hseverity]

/-! ## Files that are no grammars -/

namespace Environment

variable {environment : Environment} {files : FileSystem} {path : String}

theorem unreadable_of_parseFile {definition : ParserDefinition} {e : GrammarError}
    (h : environment.parseFile files path definition = .error e) :
    ∃ cause ∈ SystemError.ofFiles, e = .unreadable path cause := by
  unfold parseFile at h
  cases htext : files.readText path with
  | error cause =>
      rw [htext] at h
      cases h
      exact ⟨cause, files.failsPlainly_readText path cause htext, rfl⟩
  | ok text =>
      rw [htext] at h
      cases h

/-- Only the text of a file with the extension of grammars is parsed. -/
theorem parseGrammar_of_parseFile {unit : ParsedUnit}
    (h : environment.parseFile files path .standard = .ok unit) :
    (∃ text, unit = .ofResult (environment.parseGrammar path text)) ∨
      unit = .other path (Path.extension path) := by
  unfold parseFile at h
  cases htext : files.readText path with
  | error cause =>
      rw [htext] at h
      cases h
  | ok text =>
      rw [htext] at h
      cases h
      unfold parseText
      dsimp only
      split
      · exact .inl ⟨text, rfl⟩
      · exact .inr rfl

theorem parseGrammar_of_failed {reason : GrammarError}
    (h : environment.parseFile files path .standard = .ok (.failed reason)) :
    ∃ text, environment.parseGrammar path text = .error reason := by
  rcases parseGrammar_of_parseFile h with ⟨text, hunit⟩ | hunit
  · refine ⟨text, ?_⟩
    cases hparse : environment.parseGrammar path text with
    | error e =>
        rw [hparse] at hunit
        cases hunit
        rfl
    | ok g =>
        rw [hparse] at hunit
        cases hunit
  · cases hunit

theorem parseGrammar_of_grammar {g : Grammar}
    (h : environment.parseFile files path .standard = .ok (.grammar g)) :
    ∃ text, environment.parseGrammar path text = .ok g := by
  rcases parseGrammar_of_parseFile h with ⟨text, hunit⟩ | hunit
  · refine ⟨text, ?_⟩
    cases hparse : environment.parseGrammar path text with
    | error e =>
        rw [hparse] at hunit
        cases hunit
    | ok g =>
        rw [hparse] at hunit
        cases hunit
        rfl
  · cases hunit

end Environment

namespace AttemptError

/-- The message and the causes of an error have one line each. -/
def InOneLine (e : AttemptError) : Prop := ∀ part ∈ e.message :: e.causes, OneLine part

theorem oneLine_describe (e : AttemptError) : OneLine e.describe ↔ e.InOneLine :=
  oneLine_intercalate (by decide) _

end AttemptError

namespace Attempt

/-- Whether a line ends within what is reported after a grammar was read, or was not. -/
def breaksLine : Except AttemptError (String × Grammar) → Bool
  | .ok (_, g) => g.breaksLine
  | .error (.notAGrammar place reason) =>
    place.toList.contains '\n' || reason.any (·.showsLineFeed)
  | .error _ => false

theorem oneLine_directoryOf {path : String} (h : OneLine path) : OneLine (directoryOf path) := by
  have hancestor : ∀ a ∈ Path.ancestors path, OneLine a := by
    intro a ha
    obtain ⟨qs, hqs, rfl⟩ := List.mem_map.1 ha
    obtain ⟨_, _, -, -, hsuffix⟩ := Path.suffix_of_mem_ancestorParts hqs
    refine (oneLine_intercalate (by decide) _).2 fun part hpart => ?_
    have hmem := hsuffix.subset (List.mem_reverse.1 hpart)
    exact Path.oneLine_of_mem_parts h (List.mem_reverse.1 hmem)
  unfold directoryOf
  split
  · next parent hparent =>
      split
      · decide
      · unfold Path.parent? at hparent
        split at hparent
        · cases hparent
        · cases hparent
          split <;> decide
        · next other parent' more hancestors =>
            cases hparent
            exact hancestor _ (by simp [hancestors])
  · decide

/-- A grammar that was read bears the path for its name, and its rules are named by words. -/
theorem read_of_readGrammar {files : FileSystem} {path base : String} {g : Grammar}
    (h : readGrammar .standard .standard files path = .ok (base, g)) :
    g.name = path ∧ AreRead g.rules := by
  obtain ⟨text, hparse⟩ := Environment.parseGrammar_of_grammar (readGrammar_eq_ok.1 h).2
  have hfactory : Environment.standard.factory? Environment.grammarLanguage = some .standard := rfl
  obtain ⟨tokens, hscan, -, hg⟩ := Environment.parseGrammar_eq_ok hfactory hparse
  obtain ⟨pairs, -, hname, -⟩ :=
    (GrammarFile.ofTokens_eq_ok (GrammarFile.wordsAreNames_of_scan hscan) g).1 hg
  exact ⟨hname, Environment.isNormal_of_parseGrammar hfactory hparse⟩

/-- What becomes of an attempt to read a grammar. -/
theorem readGrammar_cases (files : FileSystem) (path : String) :
    let result := readGrammar .standard .standard files path
    (∃ e ∈ SystemError.ofFiles, result = .error (.unresolved (directoryOf path) e)) ∨
      (∃ e ∈ SystemError.ofFiles, result = .error (.grammar (.unreadable path e))) ∨
      (∃ place, result = .error (.notAGrammar place none)) ∨
      (∃ place reason, reason.IsPlain ∧ result = .error (.notAGrammar place (some reason))) ∨
      ∃ found, result = .ok found := by
  intro result
  cases hbase : files.canonicalize (directoryOf path) with
  | error e =>
      exact .inl ⟨e, files.failsPlainly_canonicalize _ e hbase, readGrammar_of_unresolved hbase⟩
  | ok base =>
      refine .inr ?_
      cases hfile : Environment.standard.parseFile files path .standard with
      | error e =>
          obtain ⟨cause, hcause, rfl⟩ := Environment.unreadable_of_parseFile hfile
          refine .inl ⟨cause, hcause, ?_⟩
          simp only [result, readGrammar, hbase, hfile, Except.mapError, bind, Except.bind]
      | ok unit =>
          refine .inr ?_
          cases unit with
          | other name kind =>
              refine .inl ⟨readGrammar.absolute files path, ?_⟩
              simp only [result, readGrammar, hbase, hfile, Except.mapError, bind, Except.bind]
          | failed reason =>
              obtain ⟨text, hparse⟩ := Environment.parseGrammar_of_failed hfile
              refine .inr (.inl ⟨readGrammar.absolute files path, reason,
                Environment.isPlain_of_parseGrammar hparse, ?_⟩)
              simp only [result, readGrammar, hbase, hfile, Except.mapError, bind, Except.bind]
          | grammar g =>
              exact .inr (.inr ⟨(base, g), readGrammar_eq_ok.2 ⟨hbase, hfile⟩⟩)

theorem oneLine_of_mem_ofFiles {e : SystemError} (h : e ∈ SystemError.ofFiles) :
    OneLine e.message := by
  revert e
  decide

/-- What is said about a file that is no grammar has one line, unless the path or a literal that is
shown has more. -/
theorem inOneLine_of_readGrammar {files : FileSystem} {path : String} {e : AttemptError}
    (hpath : OneLine path) (h : readGrammar .standard .standard files path = .error e) :
    e.InOneLine ↔ breaksLine (.error e) = false := by
  have hdirectory := oneLine_directoryOf hpath
  have hshown (place : String) : place.toList.contains '\n' = false ↔ OneLine place := by
    simp [OneLine]
  rcases readGrammar_cases files path with ⟨cause, hcause, hread⟩ | ⟨cause, hcause, hread⟩ |
    ⟨place, hread⟩ | ⟨place, reason, hreason, hread⟩ | ⟨found, hread⟩
  · have hmessage := oneLine_of_mem_ofFiles hcause
    obtain rfl := Except.error.inj (h.symm.trans hread)
    unfold AttemptError.InOneLine AttemptError.message AttemptError.causes
    simp +decide [breaksLine, hdirectory, hmessage]
  · have hmessage := oneLine_of_mem_ofFiles hcause
    obtain rfl := Except.error.inj (h.symm.trans hread)
    unfold AttemptError.InOneLine AttemptError.message AttemptError.causes GrammarError.message
      GrammarError.causes
    simp +decide [breaksLine, hpath, hmessage]
  · obtain rfl := Except.error.inj (h.symm.trans hread)
    rw [breaksLine, Bool.or_eq_false_iff, hshown]
    unfold AttemptError.InOneLine AttemptError.message AttemptError.causes
    simp +decide
  · obtain rfl := Except.error.inj (h.symm.trans hread)
    have hmessage : OneLine reason.message ↔ reason.showsLineFeed = false := hreason
    rw [breaksLine, Bool.or_eq_false_iff, hshown, Option.any_some, ← hmessage]
    unfold AttemptError.InOneLine AttemptError.message AttemptError.causes
    simp +decide
  · rw [h] at hread
    cases hread

end Attempt

/-! ## Artifacts -/

namespace RunState

variable {δ σ ω : Type} [DiagnosticSink δ]

/-- Only a request can fail when an artifact is emitted and writers do not fail. -/
theorem emit_eq_error [ArtifactStore σ ω] [SteadyStore σ] {a : Artifact} {s : RunState δ σ}
    {e : Generation.Error} (h : (host.emit a s).1 = .error e) :
    ∃ cause, (s.toWorkspace.request a.name.text).1 = .error cause ∧ e = .cannotOpen a.name cause := by
  have hgranted := emit_isOk a s
  rw [h] at hgranted
  unfold Workspace.grants at hgranted
  simp only [Generation.Host.emit, host] at h
  cases hrequest : s.toWorkspace.request a.name.text with
  | mk result w =>
      rw [hrequest] at h hgranted
      cases result with
      | error cause =>
          cases h
          exact ⟨cause, rfl, rfl⟩
      | ok sink => cases hgranted

theorem emitAll_eq_error [ArtifactStore σ ω] [SteadyStore σ] {artifacts : List Artifact}
    {s : RunState δ σ} {e : Generation.Error} (h : (host.emitAll artifacts s).1 = .error e) :
    ∃ (n : LogicalName) (w : Workspace σ) (cause : SystemError),
      (w.request n.text).1 = .error cause ∧ e = .cannotOpen n cause := by
  induction artifacts generalizing s with
  | nil => cases h
  | cons a rest ih =>
      rw [Generation.Host.emitAll] at h
      cases hemit : host.emit a s with
      | mk result s' =>
          rw [hemit] at h
          cases result with
          | error e' =>
              cases h
              have hresult : (host.emit a s).1 = .error e := by rw [hemit]
              obtain ⟨cause, hrequest, he⟩ := emit_eq_error hresult
              exact ⟨a.name, s.toWorkspace, cause, hrequest, he⟩
          | ok => exact ih (eq_error_of_map h)

end RunState

/-- A store in a directory refuses the name of an artifact only where the file system fails. -/
theorem DirectoryStore.failsPlainly_request (n : LogicalName) (w : Workspace DirectoryStore) :
    FailsPlainly (w.request n.text).1 := by
  cases hcontains : w.store.contains n.text w.files with
  | true =>
      have hdecision : w.decisionFor n.text = .discard := if_pos hcontains
      rw [Workspace.request, hdecision]
      exact .ok _
  | false =>
      have hfile := w.files.failsPlainly_createFileAndParents (w.store.filePath n)
      rw [request_of_new hcontains]
      generalize w.files.createFileAndParents (w.store.filePath n) = outcome at hfile ⊢
      obtain ⟨result, files⟩ := outcome
      cases result with
      | error e => exact FailsPlainly.error_iff.2 (FailsPlainly.error_iff.1 hfile)
      | ok place => exact .ok _

/-! ## Attempts -/

namespace RunState

section Diagnostics

variable {σ ω : Type} [ArtifactStore σ ω] {environment : Environment}
  {definition : ParserDefinition} {path : String} {w : Workspace σ}

theorem diagnosticsOf_of_error {e : AttemptError}
    (h : Attempt.planOf environment definition w.files path = .error e) :
    diagnosticsOf environment definition path w = [.error e.describe] := by
  have hattempt := attempt_of_error (s := (⟨w, []⟩ : RunState (List Diagnostic) σ))
    environment definition h
  rw [diagnosticsOf, attemptReporting_eq, hattempt]
  rfl

theorem diagnosticsOf_of_plan {p : Plan}
    (h : Attempt.planOf environment definition w.files path = .ok p) :
    diagnosticsOf environment definition path w = p.warnings.map .warning ++
      Attempt.failures ((p.run host (⟨w, []⟩ : RunState (List Diagnostic) σ)).1.mapError
        AttemptError.generation) := by
  have hattempt := attempt_of_plan (s := (⟨w, []⟩ : RunState (List Diagnostic) σ))
    environment definition h
  rw [diagnosticsOf, attemptReporting_eq, hattempt, emitAll_list, run_plan_list]
  rfl

end Diagnostics

/-- Whatever keeps artifacts from being written to a directory is said in one line. -/
theorem inOneLine_of_emitAll {δ : Type} [DiagnosticSink δ] {artifacts : List Artifact}
    {s : RunState δ DirectoryStore} {e : Generation.Error}
    (h : (host.emitAll artifacts s).1 = .error e) : e.InOneLine := by
  obtain ⟨n, w, cause, hrequest, rfl⟩ := emitAll_eq_error h
  have hcause := DirectoryStore.failsPlainly_request n w cause hrequest
  exact Error.inOneLine_cannotOpen (Attempt.oneLine_of_mem_ofFiles hcause) n

/-- Every diagnostic of an attempt has one line, unless a line ends within a part of the grammar
that is shown. -/
theorem oneLine_diagnosticsOf_iff {path : String} (hpath : OneLine path)
    (w : Workspace DirectoryStore) :
    (∀ d ∈ diagnosticsOf .standard .standard path w, OneLine d.text) ↔
      Attempt.breaksLine (Attempt.readGrammar .standard .standard w.files path) = false := by
  have hone (e : AttemptError) : OneLine (Diagnostic.error e.describe).text ↔ e.InOneLine :=
    (Diagnostic.oneLine_text _).trans e.oneLine_describe
  cases hread : Attempt.readGrammar .standard .standard w.files path with
  | error e =>
      rw [diagnosticsOf_of_error (Attempt.planOf_of_error hread), List.forall_mem_singleton, hone]
      exact Attempt.inOneLine_of_readGrammar hpath hread
  | ok result =>
      obtain ⟨base, g⟩ := result
      let r : Request := ⟨g, base, "", ""⟩
      have hplan : Attempt.planOf .standard .standard w.files path = .ok r.plan :=
        Attempt.planOf_of_ok hread
      obtain ⟨hname, hrules⟩ := Attempt.read_of_readGrammar hread
      have hwarnings : ∀ d ∈ r.plan.warnings.map Diagnostic.warning, OneLine d.text := by
        intro d hd
        obtain ⟨text, htext, rfl⟩ := List.mem_map.1 hd
        exact (Diagnostic.oneLine_text _).2
          (Request.oneLine_warnings (r := r) (hname ▸ hpath) hrules text htext)
      rw [diagnosticsOf_of_plan hplan, List.forall_mem_append, and_iff_right hwarnings]
      cases hartifacts : r.plan.artifacts with
      | error e =>
          have hrun : (r.plan.run host (⟨w, []⟩ : RunState (List Diagnostic) DirectoryStore)).1 =
              .error e := by
            simp only [Plan.run, hartifacts]
          rw [hrun]
          simp only [Except.mapError, Attempt.failures, List.forall_mem_singleton, hone]
          exact Request.inOneLine_of_error (r := r) rfl hartifacts
      | ok artifacts =>
          refine iff_of_true ?_ (Request.breaksLine_of_ok (r := r) hartifacts)
          cases hrun : (r.plan.run host (⟨w, []⟩ : RunState (List Diagnostic) DirectoryStore)).1 with
          | ok names => simp [Except.mapError, Attempt.failures]
          | error e =>
              simp only [Plan.run, hartifacts] at hrun
              simp only [Except.mapError, Attempt.failures, List.forall_mem_singleton, hone]
              exact inOneLine_of_emitAll hrun

end RunState

end GrammarForge
