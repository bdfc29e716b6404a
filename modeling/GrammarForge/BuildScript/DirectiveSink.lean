import GrammarForge.BuildScript.OutputStream
import GrammarForge.Processing.Diagnostic

/-!
# Diagnostics as build directives

Within a build, diagnostics are printed as directives to the build tool, one after the other, each
as a warning of the build. All of them are counted, also those that could not be printed, and the
first error in printing is kept until somebody takes it.
-/

namespace GrammarForge

structure DirectiveSink where
  stream : OutputStream
  errors : Nat
  warnings : Nat
  /-- The first error in printing. -/
  failure : Option SystemError

namespace DirectiveSink

def new (stream : OutputStream) : DirectiveSink := ⟨stream, 0, 0, none⟩

def directive (d : Diagnostic) : String := s!"cargo:warning={d.text}"

def count (d : Diagnostic) (s : DirectiveSink) : DirectiveSink :=
  match d.severity with
  | .error => { s with errors := s.errors + 1 }
  | .warning => { s with warnings := s.warnings + 1 }

def emit (d : Diagnostic) (s : DirectiveSink) : DirectiveSink :=
  let s := s.count d
  let (result, stream) := s.stream.printLine (directive d)
  match result, s.failure with
  | .error e, none => { s with stream, failure := some e }
  | _, _ => { s with stream }

instance : DiagnosticSink DirectiveSink where
  emit := emit

/-- The first error in printing since it was last taken. -/
def takeFailure (s : DirectiveSink) : Option SystemError × DirectiveSink :=
  (s.failure, { s with failure := none })

end DirectiveSink

end GrammarForge
