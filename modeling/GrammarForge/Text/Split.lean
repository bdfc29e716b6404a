/-!
# Cutting text at a character

A text with separators in it is a list of parts, of which there is always at least one. Putting the
separators back between the parts gives the text again.
-/

namespace GrammarForge.Text

/-- Cut at every occurrence of `separator`: the first part and the others. -/
def splitChars (separator : Char) : List Char → List Char × List (List Char)
  | [] => ([], [])
  | c :: rest =>
    let (part, parts) := splitChars separator rest
    if c = separator then ([], part :: parts) else (c :: part, parts)

def splitAtChar (separator : Char) (s : String) : List String :=
  let (first, rest) := splitChars separator s.toList
  String.ofList first :: rest.map String.ofList

theorem flatten_intersperse_splitChars (separator : Char) (s : List Char) :
    (splitChars separator s).1 ++
      (splitChars separator s).2.flatMap (separator :: ·) = s := by
  induction s with
  | nil => rfl
  | cons c rest ih =>
    by_cases h : c = separator
    · simp [splitChars, h, ih]
    · simpa [splitChars, h] using ih

end GrammarForge.Text
