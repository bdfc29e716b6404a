import GrammarForge.BuildScript.DirectiveSink
import GrammarForge.Processing.Rounds
import GrammarForge.Store.Directory

/-!
# Generating within a build

The build tool says by environment variables where the package and the output directory are. All
grammars are generated into a directory of its own below the output directory; sources written by
hand are looked for in the package. The build tool is told which files to watch, and everything
that is reported is printed as directives.
-/

namespace GrammarForge.BuildScript

structure Variables where
  manifestDirectory : Option String
  outDirectory : Option String

def manifestVariable : String := "CARGO_MANIFEST_DIR"
def outVariable : String := "OUT_DIR"

inductive BuildError where
  | missingVariable (name : String)
  /-- So many errors were reported. -/
  | reported (count : Nat)
  | unprintable (cause : SystemError)

namespace BuildError

def message : BuildError → String
  | missingVariable name => s!"environment variable {name} is not set; not running under cargo?"
  | reported count => s!"{count} grammar error(s) reported"
  | unprintable _ => "failed to write build script output"

def causes : BuildError → List String
  | unprintable cause => [cause.message]
  | _ => []

end BuildError

def outputName : String := "gramgen"

def sourceName : String := "src"

def watchDirective (path : String) : String := s!"cargo:rerun-if-changed={path}"

/-- Print a directive for every path, up to the first that cannot be printed. -/
def printWatched (stream : OutputStream) : List String → Except SystemError Unit × OutputStream
  | [] => (.ok (), stream)
  | path :: rest =>
    match stream.printLine (watchDirective path) with
    | (.error e, stream) => (.error e, stream)
    | (.ok (), stream) => printWatched stream rest

structure Outcome where
  result : Except BuildError RoundSummary
  stream : OutputStream
  files : FileSystem

/-- What a run comes to, given its sink at the end. That something could not be printed matters more
than errors that were reported. -/
def verdict (sink : DirectiveSink) (summary : RoundSummary) : Except BuildError RoundSummary :=
  match sink.takeFailure with
  | (some e, _) => .error (.unprintable e)
  | (none, sink) => if sink.errors = 0 then .ok summary else .error (.reported sink.errors)

def compileInto (paths : List String) (store : DirectoryStore) (stream : OutputStream)
    (files : FileSystem) : Outcome :=
  match printWatched stream paths with
  | (.error e, stream) => ⟨.error (.unprintable e), stream, files⟩
  | (.ok (), stream) =>
    let options : Options := [(Options.grammarsKey, joinPaths paths)]
    let p : Processor DirectiveSink DirectoryStore :=
      .initStandard options ⟨⟨store, files⟩, .new stream⟩
    let (summary, p) := p.runRounds Processor.defaultMaxRounds
    ⟨verdict p.sink summary, p.sink.stream, p.files⟩

/-- Generate grammars, given by paths relative to the package. -/
def compile (env : Variables) (grammars : List String) (stream : OutputStream)
    (files : FileSystem) : Outcome :=
  match env.manifestDirectory, env.outDirectory with
  | none, _ => ⟨.error (.missingVariable manifestVariable), stream, files⟩
  | some _, none => ⟨.error (.missingVariable outVariable), stream, files⟩
  | some package, some out =>
    compileInto (grammars.map (Path.join package))
      (.new (Path.join out outputName) [Path.join package sourceName]) stream files

end GrammarForge.BuildScript
