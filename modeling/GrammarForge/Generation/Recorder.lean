import GrammarForge.Generation.Host
import GrammarForge.Text.Utf8

/-!
# A recording host

A host for trying out generation: it keeps a record of everything that happens and can be told to
fail in every way in which a host may fail.
-/

namespace GrammarForge.Generation

inductive Event where
  | warning (text : String)
  | opened (name path : String)
  /-- A sink was closed that had taken this text. -/
  | written (name text : String)
deriving DecidableEq

structure Faults where
  /-- Names whose sinks cannot be opened. -/
  closedNames : List String
  /-- Names whose sinks cannot be flushed. -/
  unflushable : List String
  /-- How many bytes the sink of a name takes. -/
  limits : List (String × Nat)
  /-- Whether a sink that is full takes nothing, instead of reporting an error of its own. -/
  silentWhenFull : Bool

namespace Recorder

structure Sink where
  name : String
  taken : Bytes

/-- Events, last one first. -/
abbrev State := List Event

/-- The error of a sink that is full. -/
def fullError (faults : Faults) : SystemError :=
  if faults.silentWhenFull then .writeZero else ⟨.other, "disk full"⟩

def write (faults : Faults) (bytes : Bytes) (sink : Sink) (s : State) :
    Except SystemError Unit × Sink × State :=
  match faults.limits.lookup sink.name with
  | none => (.ok (), { sink with taken := sink.taken ++ bytes }, s)
  | some limit =>
    let room := limit - sink.taken.length
    let result := if bytes.length ≤ room then .ok () else .error (fullError faults)
    (result, { sink with taken := sink.taken ++ bytes.take room }, s)

def host (faults : Faults) : Host State Sink where
  warn text s := .warning text :: s
  openSink name path s :=
    let s := .opened name.text path :: s
    if faults.closedNames.contains name.text then (.error ⟨.permissionDenied, "read-only"⟩, s)
    else (.ok ⟨name.text, []⟩, s)
  write := write faults
  flush sink s :=
    if faults.unflushable.contains sink.name then (.error ⟨.other, "flush refused"⟩, sink, s)
    else (.ok (), sink, s)
  close sink s := .written sink.name (Text.lossy sink.taken) :: s

def run (faults : Faults) (p : Plan) : Except Error (List LogicalName) × List Event :=
  let (result, events) := p.run (host faults) []
  (result, events.reverse)

end Recorder

end GrammarForge.Generation
