import GrammarForge.CommandLine.Arguments
import GrammarForge.CommandLine.ConfigText

/-!
# The arguments of the program

The commands with their options, and the libraries with which the program is run. What is printed
about the arguments is short; scripts for shells are empty.
-/

namespace GrammarForge

namespace Generate

inductive Flag where
  | config
  | grammars
  | setting
  | outDirectory
  | sourceRoot
  | maxRounds
deriving DecidableEq

def shortFlag? : Char → Option Flag
  | 'c' => some .config
  | 'g' => some .grammars
  | 'A' => some .setting
  | 'o' => some .outDirectory
  | 's' => some .sourceRoot
  | _ => none

def longFlag? : String → Option Flag
  | "config" => some .config
  | "grammars" => some .grammars
  | "out-dir" => some .outDirectory
  | "source-root" => some .sourceRoot
  | "max-rounds" => some .maxRounds
  | _ => none

namespace Flags

def empty : Flags String := ⟨none, none, [], none, [], none⟩

def once {α : Type} (old : Option α) (read : Except UsageError α) : Except UsageError (Option α) :=
  if old.isSome then .error .repeatedOption else read.map some

/-- Take the value of an option. A setting stays a text, but it is looked at now, so that the first
mistake counts. -/
def take (flag : Flag) (value : String) (f : Flags String) : Except UsageError (Flags String) := do
  match flag with
  | .config => return { f with config := ← once f.config (checkPathValue value) }
  | .grammars => return { f with grammars := ← once f.grammars (.ok value) }
  | .setting =>
    let _ ← (readSetting value).mapError .invalidValue
    return { f with settings := f.settings ++ [value] }
  | .outDirectory => return { f with outDirectory := ← once f.outDirectory (checkPathValue value) }
  | .sourceRoot => return { f with sourceRoots := f.sourceRoots ++ [← checkPathValue value] }
  | .maxRounds =>
    let read := (readNumber value).mapError fun e => .invalidValue e.message
    return { f with maxRounds := ← once f.maxRounds read }

end Flags

def arguments : Arguments Flag (Flags String) where
  short? := shortFlag?
  long? := longFlag?
  option := Flags.take
  operand? := none

def parseArguments (args : List String) : Except UsageError (Flags String) :=
  arguments.parse .empty args

end Generate

namespace Check

def arguments : Arguments Empty (List String) where
  short? _ := none
  long? _ := none
  option := Empty.elim
  operand? := some fun value paths => do return paths ++ [← checkPathValue value]

/-- Read the arguments, of which there must be some. -/
def parseArguments (args : List String) : Except UsageError (List String) := do
  match ← arguments.parse [] args with
  | [] => .error .missingOperands
  | paths => return paths

end Check

namespace Program

def shells : List String := ["bash", "elvish", "fish", "powershell", "zsh"]

def completionArguments : Arguments Empty (Option String) where
  short? _ := none
  long? _ := none
  option := Empty.elim
  operand? := some fun value shell =>
    if shell.isSome then .error (.unknownArgument value)
    else if value ∈ shells then .ok (some value)
    else .error (.invalidValue s!"no such shell: {value}")

def parseShell (args : List String) : Except UsageError String := do
  match ← completionArguments.parse none args with
  | none => .error .missingOperands
  | some shell => return shell

/-- What may stand before the name of a command. -/
def arguments : Arguments Empty Unit where
  switches := [.help, .version, .verbose]
  short? _ := none
  long? _ := none
  option := Empty.elim
  operand? := none

def parseCommand (name : String) (args : List String) : Except UsageError Command :=
  match name with
  | "generate" => (Generate.parseArguments args).map .generate
  | "check" => (Check.parseArguments args).map .check
  | "completions" => (parseShell args).map .completions
  | "help" => .error .help
  | _ => .error (.unknownArgument name)

def readCommand (s : Arguments.State Empty Unit) : List String → Except UsageError Command
  | [] => .error .missingCommand
  | argument :: rest =>
    match Arguments.shape argument with
    | .plain => parseCommand argument rest
    | _ => do readCommand (← arguments.readArgument argument s) rest

def parseArguments (args : List String) : Except UsageError Command :=
  readCommand ⟨(), .none, false⟩ args

def usageLines : List String :=
  ["usage: gramgen [-v] generate [-c FILE] [-g PATHS] [-A KEY=VALUE] [-o DIR] [-s DIR]",
   "                             [--max-rounds N]",
   "       gramgen [-v] check FILE...",
   "       gramgen [-v] completions SHELL"]

def usageText : UsageError → String
  | .help | .version => ""
  | .unknownArgument argument => s!"unexpected argument '{argument}'"
  | .missingValue => "a value is required"
  | .invalidValue reason => s!"invalid value: {reason}"
  | .unneededValue => "unexpected value"
  | .repeatedOption => "an option cannot be used multiple times"
  | .missingOperands => "required arguments were not provided"
  | .missingCommand => "a command is required"

/-- A request for help or for the version is no mistake. -/
def refusal : UsageError → Refusal
  | .help => ⟨usageLines, [], 0⟩
  | .version => ⟨["gramgen 0.1.0"], [], 0⟩
  | e => ⟨[], s!"error: {usageText e}" :: usageLines, 2⟩

/-- The libraries with which the program is run. -/
def Libraries.standard : Libraries where
  command := parseArguments
  refusal := Program.refusal
  config := Config.parse
  script _ := []

end Program

end GrammarForge
