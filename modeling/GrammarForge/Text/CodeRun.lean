/-!
# Runs of code points

Character classes are kept as lists of runs: code points at a fixed distance from each other,
between two ends.
-/

namespace GrammarForge.Text

/-- The code points `first`, `first + step`, `first + 2 * step`, … that do not exceed `last`. -/
structure CodeRun where
  first : Nat
  last : Nat
  step : Nat

namespace CodeRun

def contains (r : CodeRun) (n : Nat) : Bool :=
  r.first ≤ n && n ≤ r.last && (n - r.first) % r.step == 0

end CodeRun

def inRuns (runs : List CodeRun) (c : Char) : Bool :=
  runs.any (·.contains c.toNat)

end GrammarForge.Text
