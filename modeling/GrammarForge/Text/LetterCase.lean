import GrammarForge.Text.LetterCaseTable

/-!
# Letter case

Upper and lower case of characters and of whole texts, for all of Unicode. The case of a letter
may be a sequence of characters (`ß` in upper case is `SS`). ASCII characters never reach the
tables, so on ASCII text everything here is the familiar shift between `A` … `Z` and `a` … `z`.
-/

namespace GrammarForge.Text

def isAscii (c : Char) : Bool := c.toNat < 128

/-- Whether `c` is an upper case letter. Title case letters are not. -/
def isUpper (c : Char) : Bool :=
  if isAscii c then c.isUpper else inRuns uppercaseRuns c

def isLower (c : Char) : Bool :=
  if isAscii c then c.isLower else inRuns lowercaseRuns c

def isCased (c : Char) : Bool :=
  isLower c || isUpper c || inRuns titlecaseRuns c

/-- Look a character up in a table of expansions, then in a table of runs. A character in neither
table has no other case and stays. -/
def mapCase (expansions : List (Nat × List Nat)) (runs : List CaseRun) (c : Char) : List Char :=
  match expansions.lookup c.toNat with
  | some codes => codes.map Char.ofNat
  | none =>
    match runs.find? (·.source.contains c.toNat) with
    | some run => [Char.ofNat (run.target + (c.toNat - run.source.first))]
    | none => [c]

def lower (c : Char) : List Char :=
  if isAscii c then [c.toLower] else mapCase lowerExpansions lowerRuns c

def upper (c : Char) : List Char :=
  if isAscii c then [c.toUpper] else mapCase upperExpansions upperRuns c

/-- Whether the first character that counts for letter case is a letter. -/
def meetsLetter (chars : List Char) : Bool :=
  match chars.dropWhile (inRuns caseIgnorableRuns) with
  | [] => false
  | c :: _ => isCased c

/-- Lower case of a text whose characters before this point are `before`, last one first. A capital
sigma that ends a word becomes the final form of the letter. -/
def lowerChars (before : List Char) : List Char → List Char
  | [] => []
  | c :: rest =>
    let mapped :=
      if c = 'Σ' then [if meetsLetter before && !meetsLetter rest then 'ς' else 'σ'] else lower c
    mapped ++ lowerChars (c :: before) rest

def lowerText (s : String) : String :=
  String.ofList (lowerChars [] s.toList)

end GrammarForge.Text
