import GrammarForge.Grammar.Error

/-!
# Matching braces

A brace matcher lists pairs of an opening and a closing brace. `BraceMatcher.check` goes over the
braces of a token list with a stack of the ones that are open, and reports the first closing brace
that closes nothing or the wrong brace, or else the innermost brace that is never closed.
-/

namespace GrammarForge

structure BraceMatcher where
  pairs : List (Char × Char)

namespace BraceMatcher

def standard : BraceMatcher := ⟨[('\x7b', '\x7d'), ('(', ')'), ('[', ']')]⟩

/-- The brace that closes `opening`: that of the first pair with this opening brace. -/
def closingFor? (m : BraceMatcher) (opening : Char) : Option Char :=
  (m.pairs.find? (·.1 = opening)).map (·.2)

def isClosing (m : BraceMatcher) (c : Char) : Bool := m.pairs.any (·.2 = c)

/-- Check the braces of a token list after which the braces in `stack`, innermost first, are open.
A brace that opens some pair is never taken for a closing one. -/
def checkFrom (m : BraceMatcher) (stack : List (Char × Span)) :
    List Token → Except GrammarError Unit
  | [] =>
    match stack with
    | [] => .ok ()
    | (opening, span) :: _ => .error (.unclosedBrace opening span)
  | t :: rest =>
    match t.kind.brace? with
    | none => m.checkFrom stack rest
    | some c =>
      if (m.closingFor? c).isSome then m.checkFrom ((c, t.span) :: stack) rest
      else if m.isClosing c then
        match stack with
        | [] => .error (.unmatchedBrace c t.span)
        | (opening, span) :: outer =>
          if m.closingFor? opening = some c then m.checkFrom outer rest
          else .error (.mismatchedBrace opening span c t.span)
      else m.checkFrom stack rest

def check (m : BraceMatcher) (tokens : List Token) : Except GrammarError Unit :=
  m.checkFrom [] tokens

end BraceMatcher

end GrammarForge
