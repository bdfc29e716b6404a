import GrammarForge.CommandLine.Config
import GrammarForge.Store.Directory

/-!
# The command `generate`

The command generates parsers for the grammars of a project. What is said by arguments goes before
what is said in the configuration file; the list of grammars may be given by an option of its own,
which goes before the setting of that name.
-/

namespace GrammarForge.Generate

/-- What is said by arguments. A setting is a text at first, and later a key and a value. -/
structure Flags (α : Type) where
  config : Option String
  grammars : Option String
  /-- Settings in order. -/
  settings : List α
  outDirectory : Option String
  sourceRoots : List String
  maxRounds : Option Nat
deriving DecidableEq

def readSetting (text : String) : Except String (String × String) :=
  match text.toList.takeWhile (· ≠ '='), text.toList.dropWhile (· ≠ '=') with
  | _, [] => .error s!"expected KEY=VALUE, got '{text}'"
  | [], _ :: _ => .error s!"missing key in '{text}'"
  | key, _ :: value => .ok (String.ofList key, String.ofList value)

/-- Read the settings. The first text that is not a setting counts. -/
def Flags.read (given : Flags String) : Except String (Flags (String × String)) := do
  let settings ← given.settings.mapM readSetting
  return { given with settings }

structure Settings where
  options : Options
  outDirectory : String
  sourceRoots : List String
  maxRounds : Nat

/-- The configuration that the arguments name, or the one that is there. -/
def configOf (read : String → Option Config) (flags : Flags (String × String))
    (files : FileSystem) : Except ConfigError Config :=
  match flags.config with
  | some path => Config.load read files path
  | none =>
    if files.isFileAt Config.fileName then Config.load read files Config.fileName
    else .ok .standard

/-- The options that a configuration and arguments come to. -/
def optionsOf (flags : Flags (String × String)) (config : Config) : Options :=
  let options : Options := [(Options.grammarsKey, joinPaths config.grammars)]
  let options := options.setAll flags.settings
  match flags.grammars with
  | some list => options.set Options.grammarsKey (joinPaths (splitPaths list))
  | none => options

def settingsOf (flags : Flags (String × String)) (config : Config) : Settings :=
  { options := optionsOf flags config
    outDirectory := flags.outDirectory.getD config.outDirectory
    sourceRoots := if flags.sourceRoots.isEmpty then config.sourceRoots else flags.sourceRoots
    maxRounds := flags.maxRounds.getD config.maxRounds }

structure Report where
  outDirectory : String
  grammars : Nat
  rounds : Nat
  /-- Created artifacts, each with its path. -/
  artifacts : List (String × String)
  errors : List String
  warnings : List String

def run (settings : Settings) (files : FileSystem) : Report × FileSystem :=
  let store := DirectoryStore.new settings.outDirectory settings.sourceRoots
  let p : Processor (List Diagnostic) DirectoryStore :=
    .initStandard settings.options ⟨⟨store, files⟩, []⟩
  let (summary, q) := p.runRounds settings.maxRounds
  let artifact? (name : String) : Option (String × String) :=
    match q.store.pathOf name with
    | .ok path => some (name, path)
    | .error _ => none
  let messages (isWanted : Diagnostic → Bool) : List String :=
    (q.sink.filter isWanted).map (·.message)
  ({ outDirectory := settings.outDirectory
     grammars := p.queue.pending.length
     rounds := summary.rounds
     artifacts := summary.created.filterMap artifact?
     errors := messages (·.isError)
     warnings := messages (!·.isError) }, q.files)

namespace Report

def isSuccess (r : Report) : Bool := r.errors.isEmpty

def artifactLines (r : Report) : List String :=
  if r.artifacts.isEmpty then ["No new artifacts."]
  else "" :: "Generated:" :: r.artifacts.map fun (name, path) => s!"  + {name} ({path})"

def outputLines (r : Report) : List String :=
  s!"Grammars: {r.grammars}" :: s!"Rounds: {r.rounds}" :: s!"Output: {r.outDirectory}" ::
    r.artifactLines

def problemLines (r : Report) : List String :=
  r.errors.map (fun text => s!"error: {text}") ++ r.warnings.map (fun text => s!"warning: {text}")

end Report

end GrammarForge.Generate
