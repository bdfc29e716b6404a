import GrammarForge.LogicalName
import GrammarForge.Text.LetterCase
import GrammarForge.Text.Words

/-!
# Names in generated code

How the rules and tokens of a grammar are called in the code that is generated from it.
-/

namespace GrammarForge.Code

/-- Make a name usable as a variant: a reserved word gets an underscore at its end, and what is no
identifier, being empty or starting with a digit, a `V` at its front. -/
def variantName (name : String) : String :=
  if Text.isReserved name then name ++ "_"
  else if Text.isIdentifier name then name
  else "V" ++ name

def elementVariant (rule : String) : String := variantName (Text.pascalCase rule)

def tokenVariant (token : String) : String := variantName (Text.pascalCase (Text.lowerText token))

def parseFunction (rule : String) : String := "parse_" ++ Text.snakeCase rule

/-- The path under which generated code finds the unit of that name. -/
def modulePathOf (name : LogicalName) : String :=
  "::".intercalate ("crate" :: name.modules.map (·.text) ++ [Text.snakeCase name.simple.text])

end GrammarForge.Code
