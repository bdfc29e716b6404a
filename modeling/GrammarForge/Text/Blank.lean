import GrammarForge.Text.CodeRun

/-!
# Blank characters

White space of two kinds: the five ASCII blanks that separate the tokens of a grammar, and the
blanks of Unicode (the property White_Space), which are trimmed from names and which make a list
entry empty.
-/

namespace GrammarForge.Text

/-- Space, tab, line feed, form feed and carriage return; the vertical tab is not among them. -/
def isAsciiBlank (c : Char) : Bool :=
  c = ' ' || c = '\t' || c = '\n' || c = '\x0c' || c = '\r'

/-- The code points with the property White_Space. -/
def blankRuns : List CodeRun :=
  [⟨0x09, 0x0D, 1⟩, ⟨0x20, 0x20, 1⟩, ⟨0x85, 0x85, 1⟩, ⟨0xA0, 0xA0, 1⟩, ⟨0x1680, 0x1680, 1⟩,
   ⟨0x2000, 0x200A, 1⟩, ⟨0x2028, 0x2029, 1⟩, ⟨0x202F, 0x202F, 1⟩, ⟨0x205F, 0x205F, 1⟩,
   ⟨0x3000, 0x3000, 1⟩]

def isBlank (c : Char) : Bool := inRuns blankRuns c

def trimChars (chars : List Char) : List Char :=
  ((chars.dropWhile isBlank).reverse.dropWhile isBlank).reverse

def trim (s : String) : String := String.ofList (trimChars s.toList)

def allBlank (s : String) : Bool := s.toList.all isBlank

end GrammarForge.Text
