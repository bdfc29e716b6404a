import GrammarForge.CommandLine.Program

/-!
# Command line arguments

A reader for arguments, with which the program is run. They are options with one value each, a
switch, requests, and operands. An option has a short name, a long name or both; its value is
attached or comes as the next argument, unless that looks like an option. The switch asks for more
to be logged; requests are for help and for the version. After `--` there are only operands.

The value of an option is looked at when the next option is met or the arguments are over. So of
two mistakes the first one counts, except that an argument that is not known counts before a
mistake in the value right before it.
-/

namespace GrammarForge

/-- What is asked for without a value. -/
inductive Switch where
  | help
  | version
  | verbose
deriving DecidableEq

namespace Switch

def shortName : Switch → Char
  | help => 'h'
  | version => 'V'
  | verbose => 'v'

def longName : Switch → String
  | help => "help"
  | version => "version"
  | verbose => "verbose"

end Switch

/-- The arguments of a command. `ι` are the options and `φ` is what is known from the arguments so
far. -/
structure Arguments (ι φ : Type) where
  switches : List Switch := [.help, .verbose]
  short? : Char → Option ι
  long? : String → Option ι
  /-- Take the value of an option. -/
  option : ι → String → φ → Except UsageError φ
  /-- Take an operand, if the command has any. -/
  operand? : Option (String → φ → Except UsageError φ)

namespace Arguments

/-- An argument that was read and not yet taken. -/
inductive Pending (ι : Type) where
  | none
  | option (option : ι) (value : Option String)
  | operands (values : List String)

structure State (ι φ : Type) where
  known : φ
  pending : Pending ι
  isVerbose : Bool

inductive Shape where
  | separator
  | long (name : String) (value : Option String)
  | short (chars : List Char)
  | plain

def splitValue (chars : List Char) : List Char × Option (List Char) :=
  let name := chars.takeWhile (· ≠ '=')
  match chars.dropWhile (· ≠ '=') with
  | [] => (name, none)
  | _ :: value => (name, some value)

/-- The value that stands right after a short name. An equals sign may stand before it. -/
def attachedValue : List Char → Option (List Char)
  | [] => none
  | '=' :: value => some value
  | value => some value

def shape (argument : String) : Shape :=
  match argument.toList with
  | ['-', '-'] => .separator
  | '-' :: '-' :: chars =>
    let (name, value) := splitValue chars
    .long (String.ofList name) (value.map String.ofList)
  | '-' :: name :: chars => .short (name :: chars)
  | _ => .plain

variable {ι φ : Type}

def settle (a : Arguments ι φ) (s : State ι φ) : Except UsageError φ :=
  match s.pending with
  | .none => .ok s.known
  | .option _ none => .error .missingValue
  | .option option (some value) => a.option option value s.known
  | .operands values =>
    match a.operand? with
    | none => .ok s.known
    | some operand => values.foldlM (fun known value => operand value known) s.known

def readOption (a : Arguments ι φ) (option : ι) (value : Option String) (s : State ι φ) :
    Except UsageError (State ι φ) := do
  let known ← a.settle s
  match value with
  | some value => return { s with known := ← a.option option value known, pending := .none }
  | none => return { s with known, pending := .option option none }

def readSwitch (a : Arguments ι φ) (switch : Switch) (s : State ι φ) :
    Except UsageError (State ι φ) := do
  let known ← a.settle s
  match switch with
  | .help => .error .help
  | .version => .error .version
  | .verbose =>
    if s.isVerbose then .error .repeatedOption else return ⟨known, .none, true⟩

def readShort (a : Arguments ι φ) (argument : String) :
    List Char → State ι φ → Except UsageError (State ι φ)
  | [], s => .ok s
  | name :: rest, s =>
    match a.short? name, a.switches.find? (·.shortName = name) with
    | some option, _ => a.readOption option ((attachedValue rest).map String.ofList) s
    | none, some switch => do a.readShort argument rest (← a.readSwitch switch s)
    | none, none => .error (.unknownArgument argument)

def readLong (a : Arguments ι φ) (argument name : String) (value : Option String) (s : State ι φ) :
    Except UsageError (State ι φ) :=
  match a.long? name, a.switches.find? (·.longName = name) with
  | some option, _ => a.readOption option value s
  | none, some switch => if value.isSome then .error .unneededValue else a.readSwitch switch s
  | none, none => .error (.unknownArgument argument)

def readOperand (a : Arguments ι φ) (argument : String) (s : State ι φ) :
    Except UsageError (State ι φ) :=
  match a.operand?, s.pending with
  | none, _ => .error (.unknownArgument argument)
  | some _, .operands values => .ok { s with pending := .operands (values ++ [argument]) }
  | some _, _ => do return { s with known := ← a.settle s, pending := .operands [argument] }

/-- Read an argument before the separator, which is not an argument of its own. -/
def readArgument (a : Arguments ι φ) (argument : String) (s : State ι φ) :
    Except UsageError (State ι φ) :=
  match shape argument with
  | .long name value => a.readLong argument name value s
  | .short names => a.readShort argument names s
  | .separator | .plain =>
    match s.pending with
    | .option option none => .ok { s with pending := .option option (some argument) }
    | _ => a.readOperand argument s

/-- Read arguments; `onlyOperands` tells whether the separator was met. -/
def readAll (a : Arguments ι φ) (onlyOperands : Bool) (s : State ι φ) :
    List String → Except UsageError φ
  | [] => a.settle s
  | argument :: rest =>
    if onlyOperands then do a.readAll true (← a.readOperand argument s) rest
    else
      match shape argument with
      | .separator => a.readAll true s rest
      | _ => do a.readAll false (← a.readArgument argument s) rest

def parse (a : Arguments ι φ) (start : φ) (arguments : List String) : Except UsageError φ :=
  a.readAll false ⟨start, .none, false⟩ arguments

end Arguments

def checkPathValue (value : String) : Except UsageError String :=
  if value = "" then .error .missingValue else .ok value

inductive NumberError where
  | empty
  | invalidDigit
  | tooLarge
deriving DecidableEq

def NumberError.message : NumberError → String
  | .empty => "cannot parse integer from empty string"
  | .invalidDigit => "invalid digit found in string"
  | .tooLarge => "number too large to fit in target type"

def largestNumber : Nat := 18446744073709551615

/-- Go on reading a number after the digits of `value`. The first mistake counts. -/
def readDigits (value : Nat) : List Char → Except NumberError Nat
  | [] => .ok value
  | c :: rest =>
    if c.isDigit then
      let value := value * 10 + (c.toNat - '0'.toNat)
      if largestNumber < value then .error .tooLarge else readDigits value rest
    else .error .invalidDigit

/-- Read a number, in front of which a plus sign may stand. -/
def readNumber (text : String) : Except NumberError Nat :=
  match text.toList with
  | [] => .error .empty
  | ['+'] => .error .invalidDigit
  | '+' :: digits => readDigits 0 digits
  | digits => readDigits 0 digits

end GrammarForge
