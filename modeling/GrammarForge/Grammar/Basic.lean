import GrammarForge.Grammar.Expr
import GrammarForge.Grammar.Token

/-!
# Grammars

A grammar is what a grammar file holds: attributes, which are settings by name, and rules. Both
keep the order of the file.
-/

namespace GrammarForge

/-- Settings by name, in the order in which the names first appeared. -/
abbrev Attributes := List (String × String)

namespace Attributes

/-- Set `key` to `value`. A key that is already there keeps its place. -/
def insert (key value : String) : Attributes → Attributes
  | [] => [(key, value)]
  | (k, v) :: rest => if k = key then (k, value) :: rest else (k, v) :: insert key value rest

def get? (attributes : Attributes) (key : String) : Option String := attributes.lookup key

def ofPairs (pairs : List (String × String)) : Attributes :=
  pairs.foldl (fun attributes (key, value) => attributes.insert key value) []

end Attributes

/-- A rule `name ::= expr`. A private rule has no element type of its own. The span runs from the
first token of the rule to the end of its expression. -/
structure Rule where
  name : String
  isPrivate : Bool
  expr : Expr
  span : Span

structure Grammar where
  name : String
  attributes : Attributes
  rules : List Rule

namespace Grammar

def rule? (g : Grammar) (name : String) : Option Rule := g.rules.find? (·.name = name)

def root? (g : Grammar) : Option Rule := g.rules.head?

end Grammar

end GrammarForge
