import GrammarForge.FileSystem
import GrammarForge.Generation.Plan

/-!
# Carrying out a plan

A host takes warnings and provides sinks to which the text of an artifact is written. It may refuse
to open a sink, and a sink may fail at any point. `Plan.run` hands the warnings to the host, then
writes one artifact after the other and stops at the first failure. A sink is always closed.
-/

namespace GrammarForge.Generation

/-- A host with states `σ` and sinks `ω`. A host may change its state also when it fails. -/
structure Host (σ ω : Type) where
  warn : String → σ → σ
  /-- Open a sink for the artifact of a name, given the path that the grammar suggests. -/
  openSink : LogicalName → String → σ → Except SystemError ω × σ
  write : Bytes → ω → σ → Except SystemError Unit × ω × σ
  flush : ω → σ → Except SystemError Unit × ω × σ
  close : ω → σ → σ

variable {σ ω : Type}

namespace Host

/-- Write all bytes and flush, then close the sink whatever happened. -/
def fill (host : Host σ ω) (bytes : Bytes) (sink : ω) (s : σ) : Except SystemError Unit × σ :=
  match host.write bytes sink s with
  | (.error e, sink, s) => (.error e, host.close sink s)
  | (.ok (), sink, s) =>
    let (result, sink, s) := host.flush sink s
    (result, host.close sink s)

def emit (host : Host σ ω) (a : Artifact) (s : σ) : Except Error Unit × σ :=
  match host.openSink a.name a.path s with
  | (.error e, s) => (.error (.cannotOpen a.name e), s)
  | (.ok sink, s) =>
    let (result, s) := host.fill (encodeText a.text) sink s
    (result.mapError (.cannotWrite a.name), s)

/-- Write artifacts in order, up to the first failure. The result is their names. -/
def emitAll (host : Host σ ω) : List Artifact → σ → Except Error (List LogicalName) × σ
  | [], s => (.ok [], s)
  | a :: rest, s =>
    match host.emit a s with
    | (.error e, s) => (.error e, s)
    | (.ok (), s) =>
      let (result, s) := host.emitAll rest s
      (result.map (a.name :: ·), s)

end Host

def Plan.run (host : Host σ ω) (p : Plan) (s : σ) : Except Error (List LogicalName) × σ :=
  let s := p.warnings.foldl (fun s text => host.warn text s) s
  match p.artifacts with
  | .error e => (.error e, s)
  | .ok artifacts => host.emitAll artifacts s

end GrammarForge.Generation
