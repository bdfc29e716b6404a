import GrammarForge.Grammar.Quoted

/-!
# Grammar expressions

The right-hand side of a rule. An expression can be printed in the syntax of grammars, and its
references, named tokens and literals can be listed in the order in which they are printed.
-/

namespace GrammarForge

inductive Expr where
  /-- The first alternative that matches. -/
  | choice (alternatives : List Expr)
  /-- All items, one after the other. The empty sequence matches nothing and always succeeds. -/
  | sequence (items : List Expr)
  | optional (item : Expr)
  | zeroOrMore (item : Expr)
  | oneOrMore (item : Expr)
  | reference (name : String)
  | token (name : String)
  /-- A token with the given text. -/
  | literal (text : String)
deriving Inhabited

namespace Expr

def isChoice : Expr → Bool
  | choice _ => true
  | _ => false

/-- Whether the expression is printed with blanks in it that are not inside brackets. -/
def isCompound : Expr → Bool
  | choice _ | sequence _ => true
  | _ => false

def parenthesize (needed : Bool) (chars : List Char) : List Char :=
  if needed then '(' :: chars ++ [')'] else chars

mutual

def chars : Expr → List Char
  | choice alternatives => alternativesChars alternatives
  | sequence items => itemsChars items
  | optional item => '[' :: item.chars ++ [']']
  | zeroOrMore item => parenthesize item.isCompound item.chars ++ ['*']
  | oneOrMore item => parenthesize item.isCompound item.chars ++ ['+']
  | reference name => name.toList
  | token name => name.toList
  | literal text => (Quoted.quote text).toList

def alternativesChars : List Expr → List Char
  | [] => []
  | e :: rest =>
    parenthesize e.isChoice e.chars ++
      (if rest.isEmpty then [] else ' ' :: '|' :: ' ' :: alternativesChars rest)

def itemsChars : List Expr → List Char
  | [] => []
  | e :: rest =>
    parenthesize e.isCompound e.chars ++ (if rest.isEmpty then [] else ' ' :: itemsChars rest)

end

def display (e : Expr) : String := String.ofList e.chars

mutual

/-- The names of the rules that the expression refers to, repeats included. -/
def references : Expr → List String
  | choice alternatives => referencesOf alternatives
  | sequence items => referencesOf items
  | optional item | zeroOrMore item | oneOrMore item => item.references
  | reference name => [name]
  | token _ | literal _ => []

def referencesOf : List Expr → List String
  | [] => []
  | e :: rest => e.references ++ referencesOf rest

end

mutual

def tokens : Expr → List String
  | choice alternatives => tokensOf alternatives
  | sequence items => tokensOf items
  | optional item | zeroOrMore item | oneOrMore item => item.tokens
  | token name => [name]
  | reference _ | literal _ => []

def tokensOf : List Expr → List String
  | [] => []
  | e :: rest => e.tokens ++ tokensOf rest

end

end Expr

end GrammarForge
