import GrammarForge.Text.VisibleTable

/-!
# String literals

A text written between double quotes, so that a reader of the generated code gets the text back:
quote, backslash and the common controls are escaped by a letter, and characters that cannot be
seen on their own by their code point.
-/

namespace GrammarForge.Text

def isVisible (c : Char) : Bool :=
  if c.toNat < 128 then 0x20 ≤ c.toNat && c.toNat < 0x7F
  else !inRuns combiningRuns c && !inRuns invisibleRuns c

/-- The code point in lower case hexadecimal between braces, after `\u`. -/
def escapeCode (c : Char) : List Char :=
  ['\\', 'u', '\x7b'] ++ Nat.toDigits 16 c.toNat ++ ['\x7d']

def escapeChar (c : Char) : List Char :=
  if c = '\x00' then ['\\', '0']
  else if c = '\t' then ['\\', 't']
  else if c = '\r' then ['\\', 'r']
  else if c = '\n' then ['\\', 'n']
  else if c = '\\' then ['\\', '\\']
  else if c = '"' then ['\\', '"']
  else if isVisible c then [c]
  else escapeCode c

def literal (s : String) : String :=
  String.ofList ('"' :: s.toList.flatMap escapeChar ++ ['"'])

end GrammarForge.Text
