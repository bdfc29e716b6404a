import GrammarForge.Text.Escaped

/-!
# Conditions of generated parsers

The bodies of generated functions are boolean expressions over a token stream `b`. They are built
from a few forms of the language of the generated code: blocks with statements, the short-circuit
connectives, branches and loops. The only variable is `m`, a position in the token stream, which an
inner block may bind anew.
-/

namespace GrammarForge.Code

mutual

inductive Condition where
  | truth (value : Bool)
  /-- Consume the next token if it is of this type. -/
  | consume (variant : String)
  /-- Consume the next token if it has this text. -/
  | consumeText (text : String)
  | call (function : String)
  | atMark
  | negation (operand : Condition)
  /-- The parts from left to right, up to the first that does not hold. -/
  | all (parts : List Condition)
  /-- The parts from left to right, up to the first that holds. -/
  | any (parts : List Condition)
  | parens (inner : Condition)
  | block (body : List Statement) (value : Condition)
  /-- If the test holds, the value of the first block, else that of the second. -/
  | branch (test value other : Condition)

inductive Statement where
  | mark
  | rollback
  | ignore (condition : Condition)
  /-- Run the body again and again, until it breaks off. -/
  | loop (body : List Statement)
  | breakIf (condition : Condition)

end

instance : Inhabited Condition := ⟨.truth false⟩

mutual

def Condition.code : Condition → String
  | .truth value => if value then "true" else "false"
  | .consume variant => "b.consume(TokenType::" ++ variant ++ ")"
  | .consumeText text => "b.consume_text(" ++ Text.literal text ++ ")"
  | .call function => "Self::" ++ function ++ "(b)"
  | .atMark => "b.mark() == m"
  | .negation operand => "!" ++ operand.code
  | .all parts => Condition.joined " && " parts
  | .any parts => Condition.joined " || " parts
  | .parens inner => "(" ++ inner.code ++ ")"
  | .block body value => "\x7b " ++ Statement.sequence body ++ value.code ++ " \x7d"
  | .branch test value other => "if " ++ test.code ++ " " ++ value.code ++ " else " ++ other.code

def Condition.joined (connective : String) : List Condition → String
  | [] => ""
  | part :: rest =>
    part.code ++ (if rest.isEmpty then "" else connective ++ Condition.joined connective rest)

def Statement.code : Statement → String
  | .mark => "let m = b.mark();"
  | .rollback => "b.rollback(m);"
  | .ignore condition => "let _ = " ++ condition.code ++ ";"
  | .loop body => "loop \x7b " ++ Statement.sequence body ++ "\x7d"
  | .breakIf condition => "if " ++ condition.code ++ " \x7b break; \x7d"

def Statement.sequence : List Statement → String
  | [] => ""
  | statement :: rest => statement.code ++ " " ++ Statement.sequence rest

end

namespace Condition

/-- All parts, or the position is as it was. -/
def attempt (parts : List Condition) : Condition :=
  .block [.mark]
    (.branch (.all parts) (.block [] (.truth true)) (.block [.rollback] (.truth false)))

/-- The item, if it holds; the condition always does. -/
def optional (item : Condition) : Condition := .block [.ignore item] (.truth true)

/-- The item, until it fails or makes no progress; the condition always holds. -/
def repeated (item : Condition) : Condition :=
  .block [.loop [.mark, .breakIf (.any [.negation (.parens item), .atMark])]] (.truth true)

end Condition

end GrammarForge.Code
