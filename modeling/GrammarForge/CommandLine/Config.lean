import GrammarForge.Processing.Rounds

/-!
# The configuration file

A project may keep its settings in a file, each of which may be left out. Relative paths in the file
are meant relative to its directory. The format of the text is somebody else's: reading it is a
parameter wherever a file is loaded.
-/

namespace GrammarForge

structure Config where
  grammars : List String
  outDirectory : String
  sourceRoots : List String
  maxRounds : Nat
deriving DecidableEq

inductive ConfigError where
  | unreadable (path : String) (cause : SystemError)
  /-- The text is not in the right format, or has something else in it than settings. -/
  | malformed (path : String)
deriving DecidableEq

def ConfigError.message : ConfigError → String
  | unreadable path _ => s!"Failed to read {path}"
  | malformed path => s!"Failed to parse {path}"

namespace Config

def fileName : String := "gramgen.toml"

/-- The settings where nothing is said. -/
def standard : Config := ⟨[], "gen", [], Processor.defaultMaxRounds⟩

def resolve (base : String) (c : Config) : Config :=
  { c with
    grammars := c.grammars.map (Path.join base)
    outDirectory := Path.join base c.outDirectory
    sourceRoots := c.sourceRoots.map (Path.join base) }

/-- Read settings from a file, with `read` for its text. -/
def load (read : String → Option Config) (files : FileSystem) (path : String) :
    Except ConfigError Config :=
  match files.readText path with
  | .error e => .error (.unreadable path e)
  | .ok text =>
    match read text with
    | none => .error (.malformed path)
    | some c => .ok (c.resolve ((Path.parent? path).getD ""))

end Config

end GrammarForge
