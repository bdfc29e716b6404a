import GrammarForge.CommandLine.Check
import GrammarForge.CommandLine.Generate

/-!
# The program

The program carries out the command that its arguments ask for. What it prints, how it ends and
which files are there afterwards depends on its arguments and on the files that are there before.

Some of it is the work of libraries, which are parameters here: reading the arguments, the answer to
arguments that are not accepted, reading the text of a configuration file, and writing scripts that
complete arguments in a shell. There is no logging here, and so nothing depends on the switch
`--verbose`, which libraries accept with every command. An error of the configuration is one line,
however it is drawn.
-/

namespace GrammarForge

inductive UsageError where
  | help
  | version
  | unknownArgument (argument : String)
  /-- An option has no value, or an empty one where there must be something. -/
  | missingValue
  | invalidValue (reason : String)
  /-- A value stands with an option that takes none. -/
  | unneededValue
  | repeatedOption
  | missingOperands
  | missingCommand
deriving DecidableEq

def UsageError.causes : UsageError → List String
  | invalidValue reason => [reason]
  | _ => []

namespace Program

inductive Command where
  | generate (given : Generate.Flags String)
  | check (paths : List String)
  | completions (shell : String)
deriving DecidableEq

/-- The answer to arguments that are not accepted. -/
structure Refusal where
  output : List String
  problems : List String
  exitCode : UInt32

/-- The work of libraries. -/
structure Libraries where
  command : List String → Except UsageError Command
  refusal : UsageError → Refusal
  config : String → Option Config
  /-- The lines of the script for a shell. -/
  script : String → List String

structure Outcome where
  output : List String
  problems : List String
  exitCode : UInt32
  files : FileSystem

def refused (r : Refusal) (files : FileSystem) : Outcome :=
  ⟨r.output, r.problems, r.exitCode, files⟩

def configProblem : ConfigError → String
  | .unreadable path cause => s!"{(ConfigError.unreadable path cause).message}: {cause.message}"
  | e => e.message

def exitCode (isSuccess : Bool) : UInt32 := if isSuccess then 0 else 1

variable (lib : Libraries)

/-- Generate. Whether settings can be read is a matter of the arguments still. -/
def generate (given : Generate.Flags String) (files : FileSystem) : Outcome :=
  match given.read with
  | .error reason => refused (lib.refusal (.invalidValue reason)) files
  | .ok flags =>
    match Generate.configOf lib.config flags files with
    | .error e => ⟨[], [s!"error: {configProblem e}"], 1, files⟩
    | .ok config =>
      let (report, files) := Generate.run (Generate.settingsOf flags config) files
      ⟨report.outputLines, report.problemLines, exitCode report.isSuccess, files⟩

def check (paths : List String) (files : FileSystem) : Outcome :=
  let report := Check.run paths files
  ⟨report.outputLines, report.problemLines, exitCode report.isValid, files⟩

def run (args : List String) (files : FileSystem) : Outcome :=
  match lib.command args with
  | .error e => refused (lib.refusal e) files
  | .ok (.generate given) => generate lib given files
  | .ok (.check paths) => check paths files
  | .ok (.completions shell) => ⟨lib.script shell, [], 0, files⟩

end Program

end GrammarForge
