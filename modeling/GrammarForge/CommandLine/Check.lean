import GrammarForge.Grammar.Environment

/-!
# The command `check`

The command parses grammars without generating anything, and says of each file whether it is a
grammar, with the number of its rules, or what is wrong with it.
-/

namespace GrammarForge.Check

/-- Why a file is not a grammar. -/
inductive Problem where
  /-- The extension of the file is not the one of grammars. -/
  | otherKind (extension : String)
  | failure (error : GrammarError)
deriving DecidableEq

inductive Verdict where
  | valid (rules : Nat)
  | invalid (problem : Problem)
deriving DecidableEq

def checkFile (files : FileSystem) (path : String) : Verdict :=
  match Environment.standard.parseFile files path .standard with
  | .error e => .invalid (.failure e)
  | .ok (.failed e) => .invalid (.failure e)
  | .ok (.other _ kind) => .invalid (.otherKind kind)
  | .ok (.grammar g) => .valid g.rules.length

/-- The files in order, each with what was found. -/
abbrev Report := List (String × Verdict)

def run (paths : List String) (files : FileSystem) : Report :=
  paths.map fun path => (path, checkFile files path)

/-- A place in the text and what is to be said about it, as one text. -/
def labelText (l : Label) : String := s!" @{l.span.start}+{l.span.stop - l.span.start} {l.text}"

def failureLine (e : GrammarError) : String :=
  let code := (e.code?.map fun code => s!" [{code}]").getD ""
  let help := (e.help?.map fun help => s!" help: {help}").getD ""
  e.message ++ code ++ String.join (e.labels.map labelText) ++ help

def Problem.line : Problem → String
  | .otherKind extension => s!"not a .bnf file (extension '{extension}')"
  | .failure e => failureLine e

namespace Report

def isValid (r : Report) : Bool :=
  r.all fun (_, verdict) =>
    match verdict with
    | .valid _ => true
    | .invalid _ => false

def countText (rules : Nat) : String := if rules = 1 then "1 rule" else s!"{rules} rules"

def outputLines (r : Report) : List String :=
  r.flatMap fun (path, verdict) =>
    match verdict with
    | .valid rules => [s!"✓ {path} ({countText rules})"]
    | .invalid _ => []

def problemLines (r : Report) : List String :=
  r.flatMap fun (path, verdict) =>
    match verdict with
    | .valid _ => []
    | .invalid problem => [s!"error: {path} is not a valid grammar", problem.line]

end Report

end GrammarForge.Check
