/-!
# Tokens of the grammar language

A token is a piece of the text of a grammar together with its kind and its place. Places are
counted in bytes of the text in UTF-8.
-/

namespace GrammarForge

/-- The bytes from `start` up to, but not including, `stop`. -/
structure Span where
  start : Nat
  stop : Nat
deriving DecidableEq, Repr

def byteLength : List Char → Nat
  | [] => 0
  | c :: rest => c.utf8Size + byteLength rest

theorem byteLength_append (a b : List Char) : byteLength (a ++ b) = byteLength a + byteLength b := by
  induction a with
  | nil => simp [byteLength]
  | cons c rest ih =>
    simp only [List.cons_append, byteLength, ih]
    omega

inductive TokenKind where
  | leftBrace
  | rightBrace
  | leftParen
  | rightParen
  | leftBracket
  | rightBracket
  | equals
  | define
  | pipe
  | star
  | plus
  | question
  | semicolon
  | ident
  | quoted
deriving DecidableEq, Repr

/-- The text of a `quoted` token includes the quotes. -/
structure Token where
  kind : TokenKind
  text : String
  span : Span
deriving DecidableEq, Repr

namespace TokenKind

def ofChar? : Char → Option TokenKind
  | '\x7b' => some leftBrace
  | '\x7d' => some rightBrace
  | '(' => some leftParen
  | ')' => some rightParen
  | '[' => some leftBracket
  | ']' => some rightBracket
  | '=' => some equals
  | '|' => some pipe
  | '*' => some star
  | '+' => some plus
  | '?' => some question
  | ';' => some semicolon
  | _ => none

def brace? : TokenKind → Option Char
  | leftBrace => some '\x7b'
  | rightBrace => some '\x7d'
  | leftParen => some '('
  | rightParen => some ')'
  | leftBracket => some '['
  | rightBracket => some ']'
  | _ => none

end TokenKind

/-- The token as an error message names it. -/
def Token.describe (t : Token) : String :=
  match t.kind with
  | .ident => s!"identifier '{t.text}'"
  | .quoted => s!"literal {t.text}"
  | _ => s!"'{t.text}'"

end GrammarForge
