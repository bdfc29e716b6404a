import GrammarForge.Processing.Attempt
import GrammarForge.Processing.Options
import GrammarForge.Processing.Queue

/-!
# The processor

A processor is made once, from options, an environment and a parser definition. Making it fills the
queue and tries the environment on a grammar without text; if that fails, an error is reported and
nothing else happens. A round attempts every grammar in the queue, so that after the first round
there is nothing left to do.
-/

namespace GrammarForge

structure Processor (δ σ : Type) extends RunState δ σ where
  environment : Environment
  definition : ParserDefinition
  queue : GrammarQueue

namespace Processor

variable {δ σ ω : Type} [DiagnosticSink δ]

def notInitialized : String := "Grammar parser failed to initialize"

/-- Whether an environment can parse the empty grammar and is one for batch runs. -/
def isUsable (environment : Environment) (definition : ParserDefinition) : Bool :=
  (environment.parseText s!"test.{definition.extension}" "" definition).isGrammar &&
    environment.kind = .light

/-- Make a processor. The extensions for grammars are registered in the environment under the
language of the definition. -/
def init (options : Options) (environment : Environment) (definition : ParserDefinition)
    (s : RunState δ σ) : Processor δ σ :=
  let environment :=
    (environment.registerFactory definition.language .standard).registerMatcher
      definition.language .standard
  let queue := ((options.get? Options.grammarsKey).map .ofList).getD .empty
  let s := if isUsable environment definition then s else s.report (.error notInitialized)
  { s with environment, definition, queue }

def initStandard (options : Options) (s : RunState δ σ) : Processor δ σ :=
  init options (.empty .light) .standard s

variable [ArtifactStore σ ω]

/-- Attempt the grammars in the queue until it is empty. A grammar leaves the queue when its attempt
starts. -/
def drain (p : Processor δ σ) : Processor δ σ :=
  match _h : p.queue.pop? with
  | none => p
  | some (path, queue) =>
    let s := p.toRunState.attemptReporting p.environment p.definition path
    drain { p with toRunState := s, queue }
termination_by p.queue.pending.length
decreasing_by exact GrammarQueue.length_lt_of_pop? _h

theorem drain_toRunState (p : Processor δ σ) :
    p.drain.toRunState =
      p.queue.pending.foldl
        (fun s path => s.attemptReporting p.environment p.definition path) p.toRunState := by
  fun_induction drain p with
  | case1 p h =>
    obtain ⟨s, e, d, ⟨pending, popped⟩⟩ := p
    cases pending with
    | nil => rfl
    | cons path rest => simp at h
  | case2 p path queue h s ih =>
    obtain ⟨s, e, d, ⟨pending, popped⟩⟩ := p
    cases pending with
    | nil => simp at h
    | cons first rest =>
      obtain ⟨rfl, rfl⟩ : first = path ∧ ⟨rest, popped + 1⟩ = queue := by simpa using h
      simpa using ih

/-- Run a round. The result says whether the processor claims the inputs of the round for itself,
which it never does. -/
def runRound (p : Processor δ σ) : Bool × Processor δ σ := (false, p.drain)

end Processor

end GrammarForge
