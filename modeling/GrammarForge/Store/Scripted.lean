import GrammarForge.Store.Basic

/-!
# Scripted stores

A store that does not tell the truth about what was created: it gives prepared answers as long as
there are any. In all else it is the store behind it, which is asked all the same.
-/

namespace GrammarForge

structure ScriptedStore (σ : Type) where
  store : σ
  /-- The answers that are still to be given. -/
  script : List (List String)

namespace ScriptedStore

variable {σ ω : Type} [ArtifactStore σ ω]

/-- The workspace of the store behind. -/
def inner (w : Workspace (ScriptedStore σ)) : Workspace σ := ⟨w.store.store, w.files⟩

def outer (script : List (List String)) (w : Workspace σ) : Workspace (ScriptedStore σ) :=
  ⟨⟨w.store, script⟩, w.files⟩

def takeCreated (s : ScriptedStore σ) : List String × ScriptedStore σ :=
  let (names, store) := ArtifactStore.takeCreated s.store
  match s.script with
  | [] => (names, ⟨store, []⟩)
  | answer :: rest => (answer, ⟨store, rest⟩)

instance : ArtifactStore (ScriptedStore σ) ω where
  contains name w := ArtifactStore.contains name (inner w)
  create name w :=
    let (result, v) := ArtifactStore.create name (inner w)
    (result, outer w.store.script v)
  write bytes writer w :=
    let (result, writer, v) := ArtifactStore.write bytes writer (inner w)
    (result, writer, outer w.store.script v)
  flush writer w :=
    let (result, writer, v) := ArtifactStore.flush writer (inner w)
    (result, writer, outer w.store.script v)
  close writer w := outer w.store.script (ArtifactStore.close writer (inner w))
  takeCreated := takeCreated

end ScriptedStore

end GrammarForge
