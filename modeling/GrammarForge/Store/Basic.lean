import GrammarForge.FileSystem

/-!
# Stores of artifacts

A store knows which artifacts exist, by their names, and makes writers for new ones. It also keeps
a list of the artifacts that were created since somebody last asked. Names are compared as they are
given. A store works in a file system, which it may or may not use.
-/

namespace GrammarForge

structure Workspace (σ : Type) where
  store : σ
  files : FileSystem

/-- Stores with states `σ` and writers `ω`. A store may change its state also when it fails. -/
class ArtifactStore (σ : Type) (ω : outParam Type) where
  /-- Whether there is an artifact of this name, from before or created by the store. -/
  contains : String → Workspace σ → Bool
  /-- Make a writer for a new artifact. After that the store contains the name. -/
  create : String → Workspace σ → Except SystemError ω × Workspace σ
  write : Bytes → ω → Workspace σ → Except SystemError Unit × ω × Workspace σ
  flush : ω → Workspace σ → Except SystemError Unit × ω × Workspace σ
  /-- Give up a writer. What goes wrong then is lost. -/
  close : ω → Workspace σ → Workspace σ
  /-- The names created since the last call, in order. -/
  takeCreated : σ → List String × σ

/-- Stores whose writers never fail. -/
class SteadyStore (σ : Type) {ω : outParam Type} [ArtifactStore σ ω] : Prop where
  write_ok (bytes : Bytes) (writer : ω) (w : Workspace σ) :
    (ArtifactStore.write bytes writer w).1 = .ok ()
  flush_ok (writer : ω) (w : Workspace σ) : (ArtifactStore.flush writer w).1 = .ok ()

def Workspace.takeCreated {σ ω : Type} [ArtifactStore σ ω] (w : Workspace σ) :
    List String × Workspace σ :=
  let (names, store) := ArtifactStore.takeCreated w.store
  (names, { w with store })

end GrammarForge
