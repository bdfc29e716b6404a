import GrammarForge.Grammar.Basic

/-!
# Analysis of a grammar

What is looked up in a grammar before code is generated from it. Only the first rule of each name is
kept; what the others hold has no influence on anything but the list of duplicates.
-/

namespace GrammarForge

/-- The first occurrence of every element. -/
def distinct {α : Type} [DecidableEq α] : List α → List α
  | [] => []
  | a :: rest => a :: (distinct rest).filter (· ≠ a)

/-- Split rules into those with a new name and the others; `seen` are the names met before. -/
def splitDuplicates (seen : List String) : List Rule → List Rule × List Rule
  | [] => ([], [])
  | r :: rest =>
    if seen.contains r.name then
      let (kept, duplicates) := splitDuplicates seen rest
      (kept, r :: duplicates)
    else
      let (kept, duplicates) := splitDuplicates (r.name :: seen) rest
      (r :: kept, duplicates)

structure Analysis where
  /-- The first rule of each name. -/
  rules : List Rule
  /-- The other rules. -/
  duplicates : List Rule
  /-- The named tokens in the order of their first use. -/
  tokens : List String
  /-- References that name no rule, each with the rule in which it stands. -/
  unresolved : List (String × String)
  /-- Private rules, other than the root, to which no other rule refers. -/
  unusedPrivate : List String

namespace Analysis

def defines (rules : List Rule) (name : String) : Bool := rules.any (·.name = name)

/-- Whether a rule of another name refers to `name`. -/
def isReferred (rules : List Rule) (name : String) : Bool :=
  rules.any fun r => r.name ≠ name && r.expr.references.contains name

def ofGrammar (g : Grammar) : Analysis :=
  let (rules, duplicates) := splitDuplicates [] g.rules
  let unresolvedOf (r : Rule) : List (String × String) :=
    (r.expr.references.filter fun name => !defines rules name).map fun name => (r.name, name)
  let isUnused (r : Rule) : Bool :=
    r.isPrivate && g.root?.all (·.name ≠ r.name) && !isReferred rules r.name
  { rules
    duplicates
    tokens := distinct (rules.flatMap (·.expr.tokens))
    unresolved := distinct (rules.flatMap unresolvedOf)
    unusedPrivate := (rules.filter isUnused).map (·.name) }

def isDefined (a : Analysis) (name : String) : Bool := defines a.rules name

end Analysis

end GrammarForge
