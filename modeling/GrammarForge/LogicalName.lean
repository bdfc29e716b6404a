import GrammarForge.Text.Blank
import GrammarForge.Text.Identifier
import GrammarForge.Text.Words

/-!
# Logical names

The name under which a generated unit is known: segments between `::`, such as
`demo::json::JsonParser`. The last segment is the simple name and the ones before it are the
module path. Every segment is an identifier that is not reserved, so a name always stands for a
relative path below an output directory. `LogicalName.parse` reads a name from text and says what
is wrong with the first segment that does not qualify.
-/

namespace GrammarForge

/-- One part of a logical name: an identifier that is not reserved. -/
structure Segment where
  text : String
  isIdentifier : Text.isIdentifier text = true
  notReserved : Text.isReserved text = false
deriving DecidableEq

structure LogicalName where
  modules : List Segment
  simple : Segment
deriving DecidableEq

/-- Why a text is not a logical name. Where a segment is at fault, `name` is the whole name without
the blanks around it. -/
inductive NameError where
  | empty
  | emptySegment (name : String)
  | reserved (name segment : String)
  | notIdentifier (name segment : String)
deriving DecidableEq

def NameError.message : NameError → String
  | .empty => "artifact name is empty"
  | .emptySegment name => s!"invalid artifact name '{name}': empty segment"
  | .reserved name segment => s!"invalid artifact name '{name}': '{segment}' is a reserved word"
  | .notIdentifier name segment =>
    s!"invalid artifact name '{name}': '{segment}' is not an identifier"

namespace LogicalName

def splitChars : List Char → List Char × List (List Char)
  | [] => ([], [])
  | ':' :: ':' :: rest =>
    let (piece, pieces) := splitChars rest
    ([], piece :: pieces)
  | c :: rest =>
    let (piece, pieces) := splitChars rest
    (c :: piece, pieces)

def parseSegment (name segment : String) : Except NameError Segment :=
  if segment = "" then .error (.emptySegment name)
  else if reserved : Text.isReserved segment = true then .error (.reserved name segment)
  else if identifier : Text.isIdentifier segment = true then
    .ok ⟨segment, identifier, by simpa using reserved⟩
  else .error (.notIdentifier name segment)

def ofSegments (first : Segment) : List Segment → LogicalName
  | [] => ⟨[], first⟩
  | next :: rest =>
    let inner := ofSegments next rest
    ⟨first :: inner.modules, inner.simple⟩

/-- Read a logical name; blanks around it are ignored. -/
def parse (s : String) : Except NameError LogicalName := do
  let name := Text.trim s
  if name = "" then .error .empty
  else
    let (first, rest) := splitChars name.toList
    let head ← parseSegment name (String.ofList first)
    let tail ← rest.mapM fun piece => parseSegment name (String.ofList piece)
    return ofSegments head tail

def segments (n : LogicalName) : List Segment := n.modules ++ [n.simple]

def joinSegments (segments : List Segment) : String :=
  "::".intercalate (segments.map (·.text))

def text (n : LogicalName) : String := joinSegments n.segments

def modulePath? (n : LogicalName) : Option String :=
  if n.modules.isEmpty then none else some (joinSegments n.modules)

/-- The name in the same module whose simple name is `simpleName`. -/
def sibling (n : LogicalName) (simpleName : String) : Except NameError LogicalName :=
  match n.modulePath? with
  | some module => parse s!"{module}::{simpleName}"
  | none => parse simpleName

/-- The components of the source file of a unit below an output directory: the module path as it
stands, then the simple name in snake case with the extension `rs`. -/
def fileComponents (n : LogicalName) : List String :=
  n.modules.map (·.text) ++ [Text.snakeCase n.simple.text ++ ".rs"]

def relativePath (n : LogicalName) : String := "/".intercalate n.fileComponents

end LogicalName

end GrammarForge
