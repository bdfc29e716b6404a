import GrammarForge.Generation.Host
import GrammarForge.Grammar.Environment
import GrammarForge.Processing.Diagnostic
import GrammarForge.Store.Emission

/-!
# Attempts

An attempt at a grammar resolves the directory in which the grammar lies, reads and parses it, and
generates its artifacts into the store. It ends at the first thing that goes wrong, and what went
wrong is reported as one error. Up to the first artifact that could be opened, an attempt changes
nothing but the list of diagnostics.
-/

namespace GrammarForge

structure RunState (δ σ : Type) extends Workspace σ where
  sink : δ

inductive AttemptError where
  | unresolved (directory : String) (cause : SystemError)
  | grammar (cause : GrammarError)
  /-- The file at `path` is no grammar, for a reason if it was tried. -/
  | notAGrammar (path : String) (reason : Option GrammarError)
  | generation (cause : Generation.Error)

namespace AttemptError

def message : AttemptError → String
  | unresolved directory _ => s!"failed to resolve directory '{directory}'"
  | grammar cause => cause.message
  | notAGrammar path none => s!"Not a grammar file: {path}"
  | notAGrammar path (some reason) => s!"Not a grammar file: {path} ({reason.message})"
  | generation cause => cause.message

def causes : AttemptError → List String
  | unresolved _ cause => [cause.message]
  | grammar cause => cause.causes
  | notAGrammar _ _ => []
  | generation cause => cause.causes

/-- The message and what caused it, as one text. -/
def describe (e : AttemptError) : String := ": ".intercalate (e.message :: e.causes)

end AttemptError

namespace Attempt

def directoryOf (path : String) : String :=
  match Path.parent? path with
  | some parent => if parent = "" then "." else parent
  | none => "."

/-- Read a grammar. The result comes with the absolute path of its directory. -/
def readGrammar (environment : Environment) (definition : ParserDefinition) (files : FileSystem)
    (path : String) : Except AttemptError (String × Grammar) := do
  let directory := directoryOf path
  let base ← (files.canonicalize directory).mapError (.unresolved directory)
  match ← (environment.parseFile files path definition).mapError .grammar with
  | .grammar g => return (base, g)
  | .other _ _ => .error (.notAGrammar (absolute files path) none)
  | .failed reason => .error (.notAGrammar (absolute files path) (some reason))
where
  /-- The absolute path if there is one, else the path as it is. -/
  absolute (files : FileSystem) (path : String) : String :=
    match files.canonicalize path with
    | .ok path => path
    | .error _ => path

end Attempt

namespace RunState

variable {δ σ ω : Type} [DiagnosticSink δ]

def report (d : Diagnostic) (s : RunState δ σ) : RunState δ σ :=
  { s with sink := DiagnosticSink.emit d s.sink }

variable [ArtifactStore σ ω]

/-- Generation with its warnings going to the sink and its artifacts, by request, to the store. -/
def host : Generation.Host (RunState δ σ) (ArtifactSink ω) where
  warn text s := s.report (.warning text)
  openSink name _ s :=
    let (result, w) := s.toWorkspace.request name.text
    (result, { s with toWorkspace := w })
  write bytes sink s :=
    let (result, sink, w) := s.toWorkspace.write bytes sink
    (result, sink, { s with toWorkspace := w })
  flush sink s :=
    let (result, sink, w) := s.toWorkspace.flush sink
    (result, sink, { s with toWorkspace := w })
  close sink s := { s with toWorkspace := s.toWorkspace.close sink }

def attempt (environment : Environment) (definition : ParserDefinition) (path : String)
    (s : RunState δ σ) : Except AttemptError (List LogicalName) × RunState δ σ :=
  match Attempt.readGrammar environment definition s.files path with
  | .error e => (.error e, s)
  | .ok (base, g) =>
    let request : Generation.Request := ⟨g, base, "", ""⟩
    let (result, s) := request.plan.run host s
    (result.mapError .generation, s)

def attemptReporting (environment : Environment) (definition : ParserDefinition) (path : String)
    (s : RunState δ σ) : RunState δ σ :=
  match s.attempt environment definition path with
  | (.ok _, s) => s
  | (.error e, s) => s.report (.error e.describe)

end RunState

end GrammarForge
