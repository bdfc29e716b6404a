import GrammarForge.Text.LetterCase

/-!
# Words in identifiers

Two spellings of compound names. In pascal case every word starts with a capital and nothing
stands between words (`HelloWorld`); in snake case words are in lower case with an underscore
between them (`hello_world`). Runs of capitals are one word, so `JSONParser` is `json_parser`.
-/

namespace GrammarForge.Text

def isWordBreak (c : Char) : Bool := c = '_' || c = '-'

def pascalChars (atStart : Bool) : List Char → List Char
  | [] => []
  | c :: rest =>
    if isWordBreak c then pascalChars true rest
    else (if atStart then upper c else [c]) ++ pascalChars false rest

/-- Pascal case: word breaks are dropped and the first character of each word is raised. -/
def pascalCase (s : String) : String :=
  String.ofList (pascalChars true s.toList)

/-- Whether a word starts at `c`, between the characters `prev` and `next`: at a capital after a
lower case letter or an ASCII digit, and at the last capital of a run that a lower case letter
follows. -/
def startsWord (prev : Option Char) (c : Char) (next : Option Char) : Bool :=
  match prev with
  | none => false
  | some p => isUpper c && (isLower p || p.isDigit || (isUpper p && next.any isLower))

def snakeChars (prev : Option Char) : List Char → List Char
  | [] => []
  | c :: rest =>
    if c = '-' then '_' :: snakeChars (some c) rest
    else (if startsWord prev c rest.head? then ['_'] else []) ++ lower c ++ snakeChars (some c) rest

/-- Snake case: hyphens become underscores, letters go to lower case, and an underscore is put in
front of every capital that starts a word. -/
def snakeCase (s : String) : String :=
  String.ofList (snakeChars none s.toList)

end GrammarForge.Text
