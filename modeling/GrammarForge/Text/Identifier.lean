/-!
# Identifiers of generated code

The ASCII identifiers that generated code may declare, and the words that are taken.
-/

namespace GrammarForge.Text

def isIdentStart (c : Char) : Bool := c.isAlpha || c = '_'

def isIdentRest (c : Char) : Bool := c.isAlphanum || c = '_'

/-- Whether the characters are a letter or underscore followed by letters, digits and underscores.
A lone underscore names nothing and is no identifier. Reserved words are not looked at. -/
def isIdentifierChars : List Char → Bool
  | [] => false
  | c :: rest => isIdentStart c && rest.all isIdentRest && !(c = '_' && rest.isEmpty)

def isIdentifier (s : String) : Bool := isIdentifierChars s.toList

/-- The words that cannot be used as plain identifiers, today or in a later edition of the language
that the generated code is written in. -/
def reservedWords : List String :=
  ["Self", "abstract", "as", "async", "await", "become", "box", "break", "const", "continue",
   "crate", "do", "dyn", "else", "enum", "extern", "false", "final", "fn", "for", "gen", "if",
   "impl", "in", "let", "loop", "macro", "match", "mod", "move", "mut", "override", "priv",
   "pub", "ref", "return", "self", "static", "struct", "super", "trait", "true", "try", "type",
   "typeof", "unsafe", "unsized", "use", "virtual", "where", "while", "yield"]

def isReserved (s : String) : Bool := reservedWords.contains s

end GrammarForge.Text
