/-!
# Quoted literals

How a literal of a grammar stands for its text. A backslash makes the next character plain, except
that `\n` is a line feed and `\t` a tab. Printing uses single quotes and escapes only backslashes
and single quotes, so a text with a line break has no printed form that reads back.
-/

namespace GrammarForge.Quoted

/-- Resolve the escapes in the body of a literal. A backslash at the very end stands for itself. -/
def resolve : List Char → List Char
  | [] => []
  | ['\\'] => ['\\']
  | '\\' :: 'n' :: rest => '\n' :: resolve rest
  | '\\' :: 't' :: rest => '\t' :: resolve rest
  | '\\' :: c :: rest => c :: resolve rest
  | c :: rest => c :: resolve rest

def unquote (literal : String) : String :=
  String.ofList (resolve (literal.toList.drop 1).dropLast)

def escape : List Char → List Char
  | [] => []
  | c :: rest => if c = '\\' || c = '\'' then '\\' :: c :: escape rest else c :: escape rest

def quote (text : String) : String :=
  String.ofList ('\'' :: escape text.toList ++ ['\''])

end GrammarForge.Quoted
