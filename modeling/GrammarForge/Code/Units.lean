import GrammarForge.Code.Condition
import GrammarForge.Code.Layout
import GrammarForge.Code.Names
import GrammarForge.Generation.Analysis

/-!
# Generated units

Two units are generated from a grammar. The types unit declares a variant for every public rule and
for every named token. The parser unit declares one function for every rule, over a trait that the
user of the parser implements for a token stream. Units are data first, and items of code second,
so that what a unit declares and what it refers to can be read off the data.
-/

namespace GrammarForge.Code

structure Header where
  file : String
  moduleName : String

def Header.items (h : Header) : List Item :=
  [.comment s!"This file is generated by gramgen from {h.file}. Do not edit."] ++
    (if h.moduleName = "" then [] else [.comment s!"Module: {h.moduleName}"]) ++ [.blank]

def deriveLine : Item := .line "#[derive(Debug, Clone, Copy, PartialEq, Eq, Hash)]"

/-- A variant of `TokenType` and the token that it stands for. -/
structure TokenDeclaration where
  variant : String
  token : String

structure TypesUnit where
  header : Header
  parser : String
  /-- The variants of `ElementType`. -/
  elements : List String
  tokens : List TokenDeclaration

namespace TypesUnit

def ofAnalysis (header : Header) (parser : LogicalName) (a : Analysis) : TypesUnit :=
  { header
    parser := parser.simple.text
    elements := (a.rules.filter (!·.isPrivate)).map fun r => elementVariant r.name
    tokens := a.tokens.map fun t => ⟨tokenVariant t, t⟩ }

def items (u : TypesUnit) : List Item :=
  u.header.items ++
  [.doc s!"Element types produced by `{u.parser}`.",
    deriveLine,
    .block "pub enum ElementType" (u.elements.map fun variant => .line s!"{variant},"),
    .blank,
    .doc "Token types referenced by the grammar.",
    deriveLine,
    .block "pub enum TokenType" (u.tokens.map fun t => .line s!"{t.variant},"),
    .blank,
    .block "impl TokenType"
      [.doc "The token name as written in the grammar.",
        .block "pub fn name(&self) -> &'static str"
          [.block "match *self" (u.tokens.map fun t =>
            .line s!"TokenType::{t.variant} => {Text.literal t.token},")]]]

def text (u : TypesUnit) : String := layout u.items

end TypesUnit

mutual

/-- The condition that holds when the expression matches at the current position, and that moves the
position past the match. A reference to no rule never matches. -/
def Condition.ofExpr (isDefined : String → Bool) : Expr → Condition
  | .reference name => if isDefined name then .call (parseFunction name) else .truth false
  | .token name => .consume (tokenVariant name)
  | .literal text => .consumeText text
  | .sequence items =>
    match Condition.ofExprs isDefined items with
    | [] => .truth true
    | [part] => part
    | parts => .attempt parts
  | .choice alternatives => .parens (.any (Condition.ofExprs isDefined alternatives))
  | .optional item => .optional (Condition.ofExpr isDefined item)
  | .zeroOrMore item => .repeated (Condition.ofExpr isDefined item)
  | .oneOrMore item =>
    .parens (.all [Condition.ofExpr isDefined item,
      .repeated (Condition.ofExpr isDefined item)])

def Condition.ofExprs (isDefined : String → Bool) : List Expr → List Condition
  | [] => []
  | e :: rest => Condition.ofExpr isDefined e :: Condition.ofExprs isDefined rest

end

/-- The function that parses a rule. If the rule is public, a match closes a node of the type
`element`, and a failure goes back to where the function started. -/
structure RuleFunction where
  rule : Rule
  name : String
  body : Condition
  element : Option String

namespace RuleFunction

def ofRule (isDefined : String → Bool) (r : Rule) : RuleFunction :=
  { rule := r
    name := parseFunction r.name
    body := .ofExpr isDefined r.expr
    element := if r.isPrivate then none else some (elementVariant r.name) }

/-- The line that shows the rule in the syntax of grammars. -/
def docText (f : RuleFunction) : String := s!"`{f.rule.name} ::= {f.rule.expr.display}`"

def bodyItems (f : RuleFunction) : List Item :=
  match f.element with
  | none => [.line f.body.code]
  | some element =>
    [.line "let m = b.mark();",
      .line s!"let r = {f.body.code};",
      .branch "r" [.line s!"b.done(m, ElementType::{element});"] [.line "b.rollback(m);"],
      .line "r"]

def items (f : RuleFunction) : List Item :=
  [.blank,
    .doc f.docText,
    .block s!"pub fn {f.name}(b: &mut impl Builder) -> bool" f.bodyItems]

end RuleFunction

structure ParserUnit where
  header : Header
  /-- The path of the types unit. -/
  typesPath : String
  parser : String
  functions : List RuleFunction

namespace ParserUnit

def ofAnalysis (header : Header) (parser types : LogicalName) (a : Analysis) : ParserUnit :=
  { header
    typesPath := modulePathOf types
    parser := parser.simple.text
    functions := a.rules.map (.ofRule a.isDefined) }

def builderItems : List Item :=
  [.doc "Callbacks driven by the generated parser.",
    .block "pub trait Builder"
      [.doc "Consume the next token if it has the given type.",
        .line "fn consume(&mut self, token: TokenType) -> bool;",
        .doc "Consume the next token if its text is `text`.",
        .line "fn consume_text(&mut self, text: &str) -> bool;",
        .doc "Current position in the token stream.",
        .line "fn mark(&mut self) -> usize;",
        .doc "Return to a position obtained from `mark`.",
        .line "fn rollback(&mut self, mark: usize);",
        .doc "Close a node of type `element` that started at `mark`.",
        .line "fn done(&mut self, mark: usize, element: ElementType);"]]

/-- The function that parses from the root rule, which is the first. -/
def rootItems (u : ParserUnit) : List Item :=
  match u.functions with
  | [] => []
  | root :: _ =>
    [.doc s!"Parse from the root rule `{root.rule.name}`.",
      .block "pub fn parse(b: &mut impl Builder) -> bool" [.line s!"Self::{root.name}(b)"]]

def items (u : ParserUnit) : List Item :=
  u.header.items ++
  [.line (s!"use {u.typesPath}::" ++ "\x7bElementType, TokenType\x7d;"), .blank] ++
  builderItems ++
  [.blank,
    .doc s!"Parser generated from `{u.header.file}`.",
    .line s!"pub struct {u.parser};",
    .blank,
    .block s!"impl {u.parser}" (u.rootItems ++ u.functions.flatMap (·.items))]

def text (u : ParserUnit) : String := layout u.items

end ParserUnit

end GrammarForge.Code
