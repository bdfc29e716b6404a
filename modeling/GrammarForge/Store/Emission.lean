import GrammarForge.Store.Basic

/-!
# Emission

Whether the text of an artifact reaches the store is decided at the moment it is requested: an
artifact that is new is written, and one that the store contains is not, so that what is there
always wins. Whoever requested an artifact that is there may write as usual; the text is dropped.
-/

namespace GrammarForge

inductive Decision where
  | write
  | discard
deriving DecidableEq

/-- What takes the text of a requested artifact. -/
inductive ArtifactSink (ω : Type) where
  | artifact (writer : ω)
  | discard

def ArtifactSink.decision {ω : Type} : ArtifactSink ω → Decision
  | artifact _ => .write
  | discard => .discard

namespace Workspace

variable {σ ω : Type} [ArtifactStore σ ω]

/-- What becomes of the text of an artifact that is requested now. -/
def decisionFor (name : String) (w : Workspace σ) : Decision :=
  if ArtifactStore.contains name w then .discard else .write

def request (name : String) (w : Workspace σ) : Except SystemError (ArtifactSink ω) × Workspace σ :=
  match w.decisionFor name with
  | .discard => (.ok .discard, w)
  | .write =>
    let (result, w) := ArtifactStore.create name w
    (result.map .artifact, w)

def write (bytes : Bytes) (sink : ArtifactSink ω) (w : Workspace σ) :
    Except SystemError Unit × ArtifactSink ω × Workspace σ :=
  match sink with
  | .discard => (.ok (), .discard, w)
  | .artifact writer =>
    let (result, writer, w) := ArtifactStore.write bytes writer w
    (result, .artifact writer, w)

def flush (sink : ArtifactSink ω) (w : Workspace σ) :
    Except SystemError Unit × ArtifactSink ω × Workspace σ :=
  match sink with
  | .discard => (.ok (), .discard, w)
  | .artifact writer =>
    let (result, writer, w) := ArtifactStore.flush writer w
    (result, .artifact writer, w)

def close (sink : ArtifactSink ω) (w : Workspace σ) : Workspace σ :=
  match sink with
  | .discard => w
  | .artifact writer => ArtifactStore.close writer w

end Workspace

end GrammarForge
