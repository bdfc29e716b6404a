import GrammarForge.Grammar.Braces
import GrammarForge.Grammar.File
import GrammarForge.Grammar.Scan
import GrammarForge.FileSystem

/-!
# Parsing environments

An environment holds, by language, the factory that builds grammars and the matcher that checks
braces. A parser definition says which files it is for, by their extension, and how to parse them
in an environment. The extensions of an environment may be replaced but never taken away.
-/

namespace GrammarForge

inductive EnvironmentKind where
  | light
  | full
deriving DecidableEq

/-- The later of two registrations for one language stands first, and counts. -/
structure Environment where
  kind : EnvironmentKind
  factories : List (String × AstFactory)
  matchers : List (String × BraceMatcher)

namespace Environment

def empty (kind : EnvironmentKind) : Environment := ⟨kind, [], []⟩

def registerFactory (env : Environment) (language : String) (factory : AstFactory) : Environment :=
  { env with factories := (language, factory) :: env.factories }

def registerMatcher (env : Environment) (language : String) (m : BraceMatcher) : Environment :=
  { env with matchers := (language, m) :: env.matchers }

def factory? (env : Environment) (language : String) : Option AstFactory :=
  env.factories.lookup language

def matcher? (env : Environment) (language : String) : Option BraceMatcher :=
  env.matchers.lookup language

def grammarLanguage : String := "BNF"

def grammarExtension : String := "bnf"

def standard : Environment :=
  ((empty .light).registerFactory grammarLanguage .standard).registerMatcher grammarLanguage
    .standard

/-- Parse the text of a grammar with the extensions for `grammarLanguage`. Only the factory is
indispensable; without a matcher the braces are not checked. -/
def parseGrammar (env : Environment) (name text : String) : Except GrammarError Grammar :=
  match env.factory? grammarLanguage with
  | none => .error (.noFactory grammarLanguage)
  | some factory => do
    let tokens ← Scan.scan text
    match env.matcher? grammarLanguage with
    | some m => m.check tokens
    | none => .ok ()
    GrammarFile.ofTokens factory name text.utf8ByteSize tokens

end Environment

inductive ParsedUnit where
  | grammar (g : Grammar)
  /-- A file that is not for this definition; `kind` is its extension. -/
  | other (name kind : String)
  | failed (error : GrammarError)

def ParsedUnit.ofResult : Except GrammarError Grammar → ParsedUnit
  | .ok g => .grammar g
  | .error e => .failed e

def ParsedUnit.isGrammar : ParsedUnit → Bool
  | .grammar _ => true
  | _ => false

structure ParserDefinition where
  language : String
  extension : String
  parse : Environment → String → String → ParsedUnit

namespace ParserDefinition

/-- Files with the given extension are parsed as grammars. The extensions looked up are those for
`grammarLanguage`, whatever the language of the definition. -/
def delegating (language extension : String) : ParserDefinition :=
  ⟨language, extension, fun env name text => .ofResult (env.parseGrammar name text)⟩

def standard : ParserDefinition :=
  delegating Environment.grammarLanguage Environment.grammarExtension

/-- A definition for grammar files that cannot parse any of them. -/
def broken : ParserDefinition :=
  ⟨Environment.grammarLanguage, Environment.grammarExtension,
    fun _ _ _ => .failed (.noFactory Environment.grammarLanguage)⟩

end ParserDefinition

def Environment.parseText (env : Environment) (name text : String) (definition : ParserDefinition) :
    ParsedUnit :=
  let extension := Path.extension name
  if extension = definition.extension then definition.parse env name text
  else .other name extension

/-- Read a file and parse its text. Only a file that cannot be read is an error; what is wrong with
the text is part of the unit. -/
def Environment.parseFile (env : Environment) (fs : FileSystem) (path : String)
    (definition : ParserDefinition) : Except GrammarError ParsedUnit :=
  match fs.readText path with
  | .error e => .error (.unreadable path e)
  | .ok text => .ok (env.parseText path text definition)

end GrammarForge
