import GrammarForge.Grammar.Token
import GrammarForge.SystemError

/-!
# What can be wrong with a grammar

Each way in which reading a grammar fails is a constructor of `GrammarError`. Its message, its code,
its advice and the places in the text that it points at are functions of the cause.
-/

namespace GrammarForge

/-- What the reader of a grammar was looking for. -/
inductive Expected where
  | openingBrace
  | attributeName
  | attributeEquals
  | attributeValue
  | ruleName
  | define
  | expression
  | closing (brace : Char)
deriving DecidableEq

def Expected.describe : Expected → String
  | .openingBrace => "'\x7b'"
  | .attributeName => "attribute name or '\x7d'"
  | .attributeEquals => "'='"
  | .attributeValue => "attribute value"
  | .ruleName => "rule name"
  | .define => "'::='"
  | .expression => "expression"
  | .closing brace => s!"'{brace}'"

inductive GrammarError where
  | unreadable (path : String) (cause : SystemError)
  | unexpectedToken (found : Token) (expected : Expected)
  /-- The text, of `length` bytes, is over too early. -/
  | unexpectedEnd (length : Nat) (expected : Expected)
  | unexpectedChar (found : Char) (span : Span)
  | unterminatedString (span : Span)
  | unterminatedComment (span : Span)
  | unclosedBrace (opening : Char) (span : Span)
  | unmatchedBrace (closing : Char) (span : Span)
  | mismatchedBrace (opening : Char) (openingSpan : Span) (closing : Char) (closingSpan : Span)
  | noFactory (language : String)
deriving DecidableEq

/-- A place in the text of a grammar and what is to be said about it. -/
structure Label where
  span : Span
  text : String
deriving DecidableEq

namespace GrammarError

def message : GrammarError → String
  | unreadable path _ => s!"failed to read '{path}'"
  | unexpectedToken found expected =>
    s!"unexpected {found.describe}, expected {expected.describe}"
  | unexpectedEnd _ expected => s!"unexpected end of file, expected {expected.describe}"
  | unexpectedChar found _ => s!"unexpected character '{found}'"
  | unterminatedString _ => "unterminated string literal"
  | unterminatedComment _ => "unterminated block comment"
  | unclosedBrace opening _ => s!"unclosed '{opening}'"
  | unmatchedBrace closing _ => s!"unmatched '{closing}'"
  | mismatchedBrace opening _ closing _ => s!"'{opening}' closed by '{closing}'"
  | noFactory language => s!"no AST factory registered for language {language}"

def causes : GrammarError → List String
  | unreadable _ cause => [cause.message]
  | _ => []

def code? : GrammarError → Option String
  | unreadable _ _ => none
  | unexpectedToken _ _ => some "bnf::syntax"
  | unexpectedEnd _ _ => some "bnf::syntax"
  | unexpectedChar _ _ => some "bnf::unexpected_char"
  | unterminatedString _ => some "bnf::unterminated_string"
  | unterminatedComment _ => some "bnf::unterminated_comment"
  | unclosedBrace _ _ => some "bnf::unclosed_brace"
  | unmatchedBrace _ _ => some "bnf::unmatched_brace"
  | mismatchedBrace _ _ _ _ => some "bnf::mismatched_brace"
  | noFactory _ => some "bnf::no_ast_factory"

def help? : GrammarError → Option String
  | unterminatedString _ => some "close the literal with a matching quote"
  | unterminatedComment _ => some "close the comment with '*/'"
  | noFactory _ => some "register one with `Environment::register_ast_factory`"
  | _ => none

def labels : GrammarError → List Label
  | unreadable _ _ => []
  | unexpectedToken found expected => [⟨found.span, s!"expected {expected.describe}"⟩]
  | unexpectedEnd length expected => [⟨⟨length, length⟩, s!"expected {expected.describe}"⟩]
  | unexpectedChar _ span => [⟨span, "not valid here"⟩]
  | unterminatedString span => [⟨span, "literal starts here"⟩]
  | unterminatedComment span => [⟨span, "comment starts here"⟩]
  | unclosedBrace _ span => [⟨span, "opened here"⟩]
  | unmatchedBrace _ span => [⟨span, "nothing to close"⟩]
  | mismatchedBrace _ openingSpan _ closingSpan =>
    [⟨openingSpan, "opened here"⟩, ⟨closingSpan, "closed here"⟩]
  | noFactory _ => []

end GrammarError

end GrammarForge
