import GrammarForge.LogicalName
import GrammarForge.Store.Emission
import Mathlib.Logic.Function.Basic

/-!
# Sessions

Somebody who uses a store asks what it contains, requests artifacts and uses what was handed out, in
any order and several sinks at a time. What is seen of the store are its answers.
-/

namespace GrammarForge

/-- What a store contains is not written again. -/
theorem Workspace.request_of_contains {σ ω : Type} [ArtifactStore σ ω] {name : String}
    {w : Workspace σ} (h : ArtifactStore.contains name w = true) :
    w.request name = (.ok .discard, w) := by
  simp only [request, decisionFor, h, if_true]

/-- One use of a store. Sinks have numbers, in the order in which they were requested. -/
inductive SessionStep where
  | contains (name : LogicalName)
  | request (name : LogicalName)
  | write (sink : Nat) (bytes : Bytes)
  | flush (sink : Nat)
  | close (sink : Nat)
  | takeCreated

/-- The name that a step is about, if there is one. -/
def SessionStep.name? : SessionStep → Option LogicalName
  | contains name => some name
  | request name => some name
  | _ => none

/-- What a store says to a step. -/
inductive SessionAnswer where
  | contained (known : Bool)
  | decided (decision : Decision)
  | failed (error : SystemError)
  | created (names : List String)
  /-- There is nothing to be said. -/
  | silent
deriving DecidableEq

/-- What is said to the use of a sink. -/
def SessionAnswer.ofResult : Except SystemError Unit → SessionAnswer
  | .ok () => silent
  | .error e => failed e

/-- A workspace and the sinks that are open. -/
structure Session (σ ω : Type) extends Workspace σ where
  /-- How many sinks were requested. -/
  requested : Nat
  sinks : Nat → Option (ArtifactSink ω)

namespace Session

variable {σ ω : Type} [ArtifactStore σ ω]

def start (w : Workspace σ) : Session σ ω := ⟨w, 0, fun _ => none⟩

def requestStep (name : LogicalName) (s : Session σ ω) : SessionAnswer × Session σ ω :=
  match s.toWorkspace.request name.text with
  | (.error e, w) => (.failed e, { s with toWorkspace := w, requested := s.requested + 1 })
  | (.ok sink, w) =>
    (.decided sink.decision,
      ⟨w, s.requested + 1, Function.update s.sinks s.requested (some sink)⟩)

def writeStep (i : Nat) (bytes : Bytes) (s : Session σ ω) : SessionAnswer × Session σ ω :=
  match s.sinks i with
  | none => (.silent, s)
  | some sink =>
    let (result, sink, w) := s.toWorkspace.write bytes sink
    (.ofResult result, ⟨w, s.requested, Function.update s.sinks i (some sink)⟩)

def flushStep (i : Nat) (s : Session σ ω) : SessionAnswer × Session σ ω :=
  match s.sinks i with
  | none => (.silent, s)
  | some sink =>
    let (result, sink, w) := s.toWorkspace.flush sink
    (.ofResult result, ⟨w, s.requested, Function.update s.sinks i (some sink)⟩)

def closeStep (i : Nat) (s : Session σ ω) : Session σ ω :=
  match s.sinks i with
  | none => s
  | some sink => ⟨s.toWorkspace.close sink, s.requested, Function.update s.sinks i none⟩

/-- A step that uses a sink which is not open has no effect. -/
def step : SessionStep → Session σ ω → SessionAnswer × Session σ ω
  | .contains name, s => (.contained (ArtifactStore.contains name.text s.toWorkspace), s)
  | .request name, s => s.requestStep name
  | .write i bytes, s => s.writeStep i bytes
  | .flush i, s => s.flushStep i
  | .close i, s => (.silent, s.closeStep i)
  | .takeCreated, s =>
    (.created s.toWorkspace.takeCreated.1, { s with toWorkspace := s.toWorkspace.takeCreated.2 })

/-- The answers to the steps, and the session after them. -/
def run : List SessionStep → Session σ ω → List SessionAnswer × Session σ ω
  | [], s => ([], s)
  | step :: rest, s =>
    let (answer, s) := s.step step
    let (answers, s) := s.run rest
    (answer :: answers, s)

theorem run_cons (step : SessionStep) (rest : List SessionStep) (s : Session σ ω) :
    s.run (step :: rest) =
      ((s.step step).1 :: ((s.step step).2.run rest).1, ((s.step step).2.run rest).2) := rfl

/-- All sinks that were requested have been closed. -/
def IsClosed (s : Session σ ω) : Prop := ∀ i < s.requested, s.sinks i = none

omit [ArtifactStore σ ω] in
instance (s : Session σ ω) : Decidable s.IsClosed :=
  inferInstanceAs (Decidable (∀ i < s.requested, s.sinks i = none))

end Session

end GrammarForge
