import GrammarForge.Store.Basic

/-!
# Stores in memory

A store that keeps what is written in memory. It can be told which names exist from the start and
which ones cannot be created. Every writer has a buffer of its own. When a name is created again,
its contents are from then on those of the new buffer, and the old writer writes to no artifact.
-/

namespace GrammarForge

structure MemoryStore where
  known : List String
  /-- Names that cannot be created. -/
  refused : List String
  /-- The buffers of all writers so far. -/
  buffers : List Bytes
  /-- Created names in the order in which they were first created, each with its buffer. -/
  created : List (String × Nat)
  fresh : List String
deriving DecidableEq

namespace MemoryStore

def new (known refused : List String) : MemoryStore := ⟨known, refused, [], [], []⟩

/-- Let a name have the given buffer. A name that is there keeps its place. -/
def assign (name : String) (buffer : Nat) : List (String × Nat) → List (String × Nat)
  | [] => [(name, buffer)]
  | (n, b) :: rest =>
    if n = name then (n, buffer) :: rest else (n, b) :: assign name buffer rest

def contains (s : MemoryStore) (name : String) : Bool :=
  s.known.contains name || (s.created.lookup name).isSome

def create (name : String) (s : MemoryStore) : Except SystemError Nat × MemoryStore :=
  if s.refused.contains name then (.error ⟨.permissionDenied, s!"cannot create {name}"⟩, s)
  else
    (.ok s.buffers.length,
      { s with
        buffers := s.buffers ++ [[]]
        created := assign name s.buffers.length s.created
        fresh := s.fresh ++ [name] })

def write (bytes : Bytes) (buffer : Nat) (s : MemoryStore) : MemoryStore :=
  { s with buffers := s.buffers.modify buffer (· ++ bytes) }

def createdNames (s : MemoryStore) : List String := s.created.map (·.1)

def contents? (s : MemoryStore) (name : String) : Option Bytes :=
  (s.created.lookup name).bind fun buffer => s.buffers[buffer]?

instance : ArtifactStore MemoryStore Nat where
  contains name w := w.store.contains name
  create name w :=
    let (result, store) := w.store.create name
    (result, { w with store })
  write bytes buffer w := (.ok (), buffer, { w with store := w.store.write bytes buffer })
  flush buffer w := (.ok (), buffer, w)
  close _ w := w
  takeCreated s := (s.fresh, { s with fresh := [] })

instance : SteadyStore MemoryStore := ⟨fun _ _ _ => rfl, fun _ _ => rfl⟩

end MemoryStore

end GrammarForge
