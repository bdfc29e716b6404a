import GrammarForge.Processing.Processor

/-!
# Rounds

Artifacts that were created in one round may be inputs of the next. So rounds go on as long as the
store says that something was created, up to a limit, and one final round follows. The limit counts
the rounds before the final one, of which there is always at least one.
-/

namespace GrammarForge

structure RoundSummary where
  rounds : Nat
  /-- What the store said was created, in order. -/
  created : List String
deriving DecidableEq

namespace RoundSummary

def empty : RoundSummary := ⟨0, []⟩

def round (s : RoundSummary) (names : List String) : RoundSummary :=
  ⟨s.rounds + 1, s.created ++ names⟩

end RoundSummary

namespace Processor

variable {δ σ ω : Type} [DiagnosticSink δ] [ArtifactStore σ ω]

def defaultMaxRounds : Nat := 8

def takeCreated (p : Processor δ σ) : List String × Processor δ σ :=
  let (names, w) := p.toWorkspace.takeCreated
  (names, { p with toWorkspace := w })

def roundAndTake (p : Processor δ σ) : List String × Processor δ σ := p.runRound.2.takeCreated

def limitMessage (limit : Nat) : String :=
  s!"round limit of {limit} reached while artifacts were still being created"

/-- Run rounds until one creates nothing, at most as many as `left`. When `left` runs out, `limit`
is reported. -/
def creatingRounds (limit left : Nat) (summary : RoundSummary) (p : Processor δ σ) :
    RoundSummary × Processor δ σ :=
  match left with
  | 0 => (summary, { p with toRunState := p.report (.warning (limitMessage limit)) })
  | left + 1 =>
    let (names, p) := p.roundAndTake
    if names.isEmpty then (summary.round names, p)
    else creatingRounds limit left (summary.round names) p

/-- Run rounds as long as they create something, then the final one. -/
def runRounds (maxRounds : Nat) (p : Processor δ σ) : RoundSummary × Processor δ σ :=
  let limit := max maxRounds 1
  let (summary, p) := p.creatingRounds limit limit .empty
  let (names, p) := p.roundAndTake
  (summary.round names, p)

end Processor

end GrammarForge
