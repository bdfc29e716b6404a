import GrammarForge.Code.Units
import GrammarForge.Path
import GrammarForge.SystemError

/-!
# What is to be generated

The plan for a grammar is made before anything is written: the warnings about it, and either the two
artifacts, complete with their texts, or the name that is not valid. It depends on the grammar and
on the settings of the request alone.
-/

namespace GrammarForge.Generation

/-- A grammar to generate from. Suggested output paths are relative to `baseDirectory`, the
directory of the grammar. The other two may be empty: `moduleName` is shown in the headers, and
`package` qualifies the default name of the parser. -/
structure Request where
  grammar : Grammar
  baseDirectory : String
  moduleName : String
  package : String

structure Artifact where
  name : LogicalName
  /-- Where the grammar suggests to put it. -/
  path : String
  text : String

inductive NameSource where
  | attribute (key : String)
  | package (name : String)
  /-- The types unit beside the parser of this name. -/
  | derivedTypes (parser : LogicalName)

def NameSource.describe : NameSource → String
  | .attribute key => s!"{key} attribute"
  | .package name => s!"namespace '{name}'"
  | .derivedTypes parser => s!"element types name derived from {parser.text}"

inductive Error where
  | invalidName (source : NameSource) (cause : NameError)
  | cannotOpen (name : LogicalName) (cause : SystemError)
  | cannotWrite (name : LogicalName) (cause : SystemError)

namespace Error

def message : Error → String
  | invalidName source _ => s!"invalid {source.describe}"
  | cannotOpen name _ => s!"failed to open output for {name.text}"
  | cannotWrite name _ => s!"failed to write {name.text}"

def causes : Error → List String
  | invalidName _ cause => [cause.message]
  | cannotOpen _ cause => [cause.message]
  | cannotWrite _ cause => [cause.message]

end Error

/-- A problem of a grammar that does not keep code from being generated. -/
inductive Warning where
  | noRules
  | duplicateRule (rule : String)
  | unresolvedReference (rule reference : String)
  | unusedPrivateRule (rule : String)
  | noParserName (name : LogicalName)

def Warning.message (file : String) : Warning → String
  | .noRules => s!"{file}: grammar has no rules, nothing to generate"
  | .duplicateRule rule => s!"{file}: duplicate rule '{rule}', later definition ignored"
  | .unresolvedReference rule reference =>
    s!"{file}: unresolved reference '{reference}' in rule '{rule}'"
  | .unusedPrivateRule rule => s!"{file}: unused private rule '{rule}'"
  | .noParserName name => s!"{file}: no parserClass attribute, generating {name.text}"

structure Plan where
  warnings : List String
  artifacts : Except Error (List Artifact)

/-- The attributes of a grammar that generation looks at. -/
def parserAttribute : String := "parserClass"
def typesAttribute : String := "elementTypeHolderClass"
def directoryAttribute : String := "generateDir"

/-- The simple names of the units where no attribute gives them. -/
def defaultParser : String := "GeneratedParser"
def defaultTypes : String := "Types"

/-- What qualifies the default name of the parser if the request does not say. -/
def defaultPackage : String := "generated"

/-- Where artifacts go by suggestion, relative to the grammar. -/
def defaultDirectory : String := "gen"

def fileNameOf (g : Grammar) : String := (Path.fileName? g.name).getD g.name

def ruleWarnings (a : Analysis) : List Warning :=
  a.duplicates.map (fun r => .duplicateRule r.name) ++
    a.unresolved.map (fun (rule, reference) => .unresolvedReference rule reference) ++
    a.unusedPrivate.map .unusedPrivateRule

namespace Request

def nameFrom (key value : String) : Except Error LogicalName :=
  (LogicalName.parse value).mapError (.invalidName (.attribute key))

def parserName (r : Request) : Except Error LogicalName :=
  match r.grammar.attributes.get? parserAttribute with
  | some value => nameFrom parserAttribute value
  | none =>
    let package := if r.package = "" then defaultPackage else r.package
    (LogicalName.parse s!"{package}::{defaultParser}").mapError (.invalidName (.package package))

def typesName (r : Request) (parser : LogicalName) : Except Error LogicalName :=
  match r.grammar.attributes.get? typesAttribute with
  | some value => nameFrom typesAttribute value
  | none => (parser.sibling defaultTypes).mapError (.invalidName (.derivedTypes parser))

def directory (r : Request) : String :=
  Path.join r.baseDirectory
    ((r.grammar.attributes.get? directoryAttribute).getD defaultDirectory)

def artifact (r : Request) (name : LogicalName) (text : String) : Artifact :=
  ⟨name, Path.join r.directory name.relativePath, text⟩

/-- The warning about a parser whose name the grammar does not give. -/
def nameWarnings (r : Request) : List Warning :=
  match r.grammar.attributes.get? parserAttribute, r.parserName with
  | none, .ok parser => [.noParserName parser]
  | _, _ => []

def artifacts (r : Request) (a : Analysis) : Except Error (List Artifact) := do
  let parser ← r.parserName
  let types ← r.typesName parser
  let header : Code.Header := ⟨fileNameOf r.grammar, r.moduleName⟩
  return [r.artifact types (Code.TypesUnit.ofAnalysis header parser a).text,
    r.artifact parser (Code.ParserUnit.ofAnalysis header parser types a).text]

/-- The plan for a grammar. A grammar without rules gets a warning and no artifacts. -/
def plan (r : Request) : Plan :=
  let file := fileNameOf r.grammar
  if r.grammar.rules.isEmpty then ⟨[Warning.noRules.message file], .ok []⟩
  else
    let a := Analysis.ofGrammar r.grammar
    ⟨(ruleWarnings a ++ r.nameWarnings).map (·.message file), r.artifacts a⟩

end Request

end GrammarForge.Generation
