/-!
# Diagnostics

What a run has to say to the people who started it, as errors and warnings. They go to a sink,
which takes all of them and has no influence on the run.
-/

namespace GrammarForge

inductive Severity where
  | error
  | warning
deriving DecidableEq

def Severity.text : Severity → String
  | .error => "error"
  | .warning => "warning"

structure Diagnostic where
  severity : Severity
  message : String
deriving DecidableEq

namespace Diagnostic

def error (message : String) : Diagnostic := ⟨.error, message⟩

def warning (message : String) : Diagnostic := ⟨.warning, message⟩

def isError (d : Diagnostic) : Bool := d.severity = .error

def text (d : Diagnostic) : String := s!"{d.severity.text}: {d.message}"

end Diagnostic

/-- Where diagnostics go, with states `δ`. -/
class DiagnosticSink (δ : Type) where
  emit : Diagnostic → δ → δ

/-- The plainest sink keeps all diagnostics in order. -/
instance : DiagnosticSink (List Diagnostic) where
  emit d kept := kept ++ [d]

end GrammarForge
