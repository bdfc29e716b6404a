import GrammarForge.Text.Blank
import GrammarForge.Text.Split

/-!
# The queue of grammars

Grammars wait in a queue and leave it one at a time, first in, first out; an entry that has left
never comes back. A list of grammars is handed over as one text, the paths with a separator between
them. Reading such a text drops blank entries and keeps all others as they are written.
-/

namespace GrammarForge

def pathSeparator : Char := ':'

/-- The paths in a list, without the blank ones. -/
def splitPaths (list : String) : List String :=
  (Text.splitAtChar pathSeparator list).filter fun path => !Text.allBlank path

def joinPaths (paths : List String) : String := pathSeparator.toString.intercalate paths

structure GrammarQueue where
  /-- The paths that still wait, in order. -/
  pending : List String
  /-- How many have left. -/
  popped : Nat
deriving DecidableEq

namespace GrammarQueue

def empty : GrammarQueue := ⟨[], 0⟩

def ofPaths (paths : List String) : GrammarQueue := ⟨paths, 0⟩

def ofList (list : String) : GrammarQueue := ofPaths (splitPaths list)

/-- The next path and the queue without it. -/
def pop? (q : GrammarQueue) : Option (String × GrammarQueue) :=
  match q.pending with
  | [] => none
  | path :: rest => some (path, ⟨rest, q.popped + 1⟩)

@[simp] theorem pop?_nil (n : Nat) : pop? ⟨[], n⟩ = none := rfl

@[simp] theorem pop?_cons (path : String) (rest : List String) (n : Nat) :
    pop? ⟨path :: rest, n⟩ = some (path, ⟨rest, n + 1⟩) := rfl

theorem length_lt_of_pop? {q r : GrammarQueue} {path : String} (h : q.pop? = some (path, r)) :
    r.pending.length < q.pending.length := by
  obtain ⟨pending, popped⟩ := q
  cases pending with
  | nil => simp at h
  | cons first rest =>
    obtain ⟨rfl, rfl⟩ : first = path ∧ ⟨rest, popped + 1⟩ = r := by simpa using h
    simp

end GrammarQueue

end GrammarForge
