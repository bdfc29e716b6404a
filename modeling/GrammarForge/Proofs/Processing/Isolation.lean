import GrammarForge.Proofs.FileSystem.Reading
import GrammarForge.Proofs.Processing.Requests
import Mathlib

/-!
# Failures stay where they are

Every grammar of a round has its own block of diagnostics, with an error in it only if the attempt
failed, and then at the end. An attempt that was granted nothing leaves no trace in a store in
memory, so the rest of the round goes on as if the grammar had not been in the queue.
-/

namespace GrammarForge

open Generation DiagnosticSink

theorem MemoryStore.receive_of_error {name : String} {text : Bytes} {s : MemoryStore}
    {e : SystemError} (h : (s.receive name text).1 = .error e) : (s.receive name text).2 = s := by
  unfold receive at h ⊢
  split at h
  · cases h
  · split at h
    · rw [if_neg ‹_›, if_pos ‹_›]
    · cases h

namespace RunState

variable {δ : Type} [DiagnosticSink δ]
variable (environment : Environment) (definition : ParserDefinition)

/-- None of these requests was granted. -/
def NoneGranted (rs : List (Requested (RunState δ MemoryStore))) : Prop :=
  ∀ r ∈ rs, r.state.toWorkspace.grants r.artifact.name.text = false

theorem emit_of_not_granted {a : Artifact} {s : RunState δ MemoryStore}
    (h : s.toWorkspace.grants a.name.text = false) : ∃ e, host.emit a s = (.error e, s) := by
  rw [← emit_isOk, emit_eq_receive] at h
  rw [emit_eq_receive]
  cases hresult : (s.store.receive a.name.text (encodeText a.text)).1 with
  | error e => exact ⟨.cannotOpen a.name e, by rw [MemoryStore.receive_of_error hresult]; rfl⟩
  | ok =>
      rw [hresult] at h
      cases h

theorem emitAll_of_noneGranted {artifacts : List Artifact} {s : RunState δ MemoryStore}
    (h : NoneGranted (host.requests artifacts s)) : (host.emitAll artifacts s).2 = s := by
  cases artifacts with
  | nil => rfl
  | cons a rest =>
      obtain ⟨e, hemit⟩ := emit_of_not_granted (h ⟨a, s⟩ List.mem_cons_self)
      rw [Host.emitAll, hemit]

/-- An attempt that was granted nothing has changed nothing. -/
theorem workspaceAfter_of_noneGranted {path : String} {s : RunState δ MemoryStore}
    (h : NoneGranted (s.requests environment definition path)) :
    workspaceAfter environment definition path s.toWorkspace = s.toWorkspace := by
  obtain ⟨_, hattempt, -⟩ := attempt_eq environment definition path s
  have hafter : workspaceAfter environment definition path s.toWorkspace =
      (s.attempt environment definition path).2.toWorkspace := by
    rw [hattempt]
  rw [hafter]
  unfold requests at h
  cases hplan : Attempt.planOf environment definition s.files path with
  | error e => rw [attempt_of_error environment definition hplan]
  | ok p =>
      rw [attempt_of_plan environment definition hplan]
      rw [hplan] at h
      simp only [Plan.requests, Plan.run, foldl_warn] at h ⊢
      cases hartifacts : p.artifacts with
      | error e => rfl
      | ok artifacts =>
          rw [hartifacts] at h
          have hstate := congrArg toWorkspace (emitAll_of_noneGranted h)
          exact hstate

end RunState

namespace Processor

section Blocks

variable {δ σ ω : Type} [DiagnosticSink δ] [ArtifactStore σ ω]

theorem sink_runRound (paths : List String) (p : Processor δ σ) :
    (p.withPending paths).runRound.2.sink = emitAll (p.blocks paths).flatten p.sink :=
  congrArg RunState.sink (runRound_toRunState paths p)

theorem workspace_runRound (paths : List String) (p : Processor δ σ) :
    (p.withPending paths).runRound.2.toWorkspace =
      RunState.workspaceAfterAll p.environment p.definition paths p.toWorkspace :=
  congrArg RunState.toWorkspace (runRound_toRunState paths p)

/-- The block of a grammar in the middle of a queue. -/
theorem blocks_middle (p : Processor δ σ) (xs ys : List String) (path : String) :
    p.blocks (xs ++ path :: ys) =
      p.blocks xs ++
        RunState.diagnosticsOf p.environment p.definition path
            (p.withPending xs).runRound.2.toWorkspace ::
          RunState.blocks p.environment p.definition ys
            (RunState.workspaceAfter p.environment p.definition path
              (p.withPending xs).runRound.2.toWorkspace) := by
  unfold blocks
  rw [RunState.blocks_append, workspace_runRound]
  rfl

end Blocks

variable {δ : Type} [DiagnosticSink δ]

/-- A round reports one block for every grammar, in the order of the queue. The block of a grammar
is warnings, with an error behind them if the attempt failed. A grammar that was granted nothing
leaves the store and the other blocks as they are without it in the queue. -/
theorem failing_grammar_is_isolated (p : Processor δ MemoryStore) (xs ys : List String)
    (path : String) :
    (p.withPending (xs ++ path :: ys)).runRound.2.sink =
        emitAll (p.blocks (xs ++ path :: ys)).flatten p.sink ∧
      (p.blocks (xs ++ path :: ys)).length = (xs ++ path :: ys).length ∧
      (∃ warnings : List String, (p.blocks (xs ++ path :: ys))[xs.length]? =
        some (warnings.map .warning ++ Attempt.failures
          ((p.withPending xs).runRound.2.attempt p.environment p.definition path).1)) ∧
      (RunState.NoneGranted
          ((p.withPending xs).runRound.2.requests p.environment p.definition path) →
        (p.withPending (xs ++ path :: ys)).runRound.2.toWorkspace =
            (p.withPending (xs ++ ys)).runRound.2.toWorkspace ∧
          (p.withPending (xs ++ ys)).runRound.2.sink =
            emitAll ((p.blocks (xs ++ path :: ys)).eraseIdx xs.length).flatten p.sink) := by
  have hlength : (p.blocks xs).length = xs.length := RunState.length_blocks ..
  refine ⟨sink_runRound _ p, RunState.length_blocks .., ?_, ?_⟩
  · obtain ⟨warnings, hwarnings⟩ := RunState.diagnosticsOf_eq p.environment p.definition path
      (p.withPending xs).runRound.2.toRunState
    refine ⟨warnings, ?_⟩
    rw [blocks_middle, ← hlength, List.getElem?_append_right (Nat.le_refl _), Nat.sub_self,
      List.getElem?_cons_zero, hwarnings]
  · intro hnone
    have hafter := RunState.workspaceAfter_of_noneGranted p.environment p.definition hnone
    constructor
    · rw [workspace_runRound, workspace_runRound, RunState.workspaceAfterAll_append,
        RunState.workspaceAfterAll_cons, RunState.workspaceAfterAll_append,
        ← workspace_runRound, hafter]
    · rw [sink_runRound, blocks_middle, hafter, ← hlength, List.eraseIdx_append_of_length_le
        (Nat.le_refl _), Nat.sub_self, List.eraseIdx_cons_zero, workspace_runRound]
      unfold blocks
      rw [RunState.blocks_append]

/-- A missing file between two grammars. -/
theorem missing_grammar_is_isolated :
    ∃ (p : Processor (List Diagnostic) MemoryStore) (warnings : List String),
      (p.blocks ["d/g.bnf", "h", "d/g.bnf"])[1]? =
          some (warnings.map .warning ++
            [.error (AttemptError.grammar (.unreadable "h" .notFound)).describe]) ∧
        (p.withPending ["d/g.bnf", "h", "d/g.bnf"]).runRound.2.toWorkspace =
          (p.withPending ["d/g.bnf", "d/g.bnf"]).runRound.2.toWorkspace := by
  obtain ⟨p, henvironment, hdefinition, hfiles⟩ :
      ∃ p : Processor (List Diagnostic) MemoryStore, p.environment = .standard ∧
        p.definition = .standard ∧ p.files = .withGrammar ["w"] "d" "{ parserClass = P } a ::= B" :=
    ⟨⟨⟨⟨.new ["Types"] [], .withGrammar ["w"] "d" "{ parserClass = P } a ::= B"⟩, []⟩,
      .standard, .standard, .empty⟩, rfl, rfl, rfl⟩
  have hread : Attempt.readGrammar .standard .standard
      (.withGrammar ["w"] "d" "{ parserClass = P } a ::= B") "h" =
        .error (.grammar (.unreadable "h" .notFound)) := by
    cbv
  have hplan : Attempt.planOf p.environment p.definition
      (p.withPending ["d/g.bnf"]).runRound.2.files "h" =
        .error (.grammar (.unreadable "h" .notFound)) := by
    have hround : (p.withPending ["d/g.bnf"]).runRound.2.files = p.files :=
      runRound_files (p.withPending ["d/g.bnf"])
    rw [hround, hfiles, henvironment, hdefinition, Attempt.planOf_of_error hread]
  have hnone : RunState.NoneGranted
      ((p.withPending ["d/g.bnf"]).runRound.2.requests p.environment p.definition "h") := by
    unfold RunState.requests
    rw [hplan]
    intro r hr
    cases hr
  obtain ⟨-, -, ⟨warnings, hblock⟩, hisolated⟩ :=
    failing_grammar_is_isolated p ["d/g.bnf"] ["d/g.bnf"] "h"
  refine ⟨p, warnings, ?_, (hisolated hnone).1⟩
  rw [RunState.attempt_of_error _ _ hplan] at hblock
  exact hblock

end Processor

end GrammarForge
