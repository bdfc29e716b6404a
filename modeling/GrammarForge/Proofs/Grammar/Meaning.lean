import GrammarForge.Grammar.Basic

/-!
# The meaning of grammars

A grammar is read as a parsing expression grammar. At a position of a token stream, an expression
matches up to a later position, or it fails: a choice is that of the first alternative that matches,
and a repetition goes on until its item fails or makes no progress. Left recursion means neither.
-/

namespace GrammarForge

/-- A token of the stream that is parsed. -/
structure Terminal where
  /-- The name of the token in grammars. -/
  kind : String
  text : String

namespace Grammar

variable (g : Grammar) (stream : List Terminal)

mutual

/-- At the position, the expression matches up to the given position, or fails. -/
inductive Matches : Expr → Nat → Option Nat → Prop
  | reference {name : String} {r : Rule} {p : Nat} {o : Option Nat} (hr : g.rule? name = some r)
      (h : Matches r.expr p o) : Matches (.reference name) p o
  | undefined {name : String} {p : Nat} (hr : g.rule? name = none) :
      Matches (.reference name) p none
  | token {name : String} {p : Nat} (h : ∃ t ∈ stream[p]?, t.kind = name) :
      Matches (.token name) p (some (p + 1))
  | token_fails {name : String} {p : Nat} (h : ¬ ∃ t ∈ stream[p]?, t.kind = name) :
      Matches (.token name) p none
  | literal {text : String} {p : Nat} (h : ∃ t ∈ stream[p]?, t.text = text) :
      Matches (.literal text) p (some (p + 1))
  | literal_fails {text : String} {p : Nat} (h : ¬ ∃ t ∈ stream[p]?, t.text = text) :
      Matches (.literal text) p none
  | sequence {items : List Expr} {p : Nat} {o : Option Nat} (h : MatchesAll items p o) :
      Matches (.sequence items) p o
  | choice {alternatives : List Expr} {p : Nat} {o : Option Nat}
      (h : MatchesFirst alternatives p o) : Matches (.choice alternatives) p o
  | optional {item : Expr} {p q : Nat} (h : Matches item p (some q)) :
      Matches (.optional item) p (some q)
  | optional_fails {item : Expr} {p : Nat} (h : Matches item p none) :
      Matches (.optional item) p (some p)
  | zeroOrMore {item : Expr} {p q : Nat} (h : Repeats item p q) :
      Matches (.zeroOrMore item) p (some q)
  | oneOrMore {item : Expr} {p q last : Nat} (h : Matches item p (some q))
      (hrest : Repeats item q last) : Matches (.oneOrMore item) p (some last)
  | oneOrMore_fails {item : Expr} {p : Nat} (h : Matches item p none) :
      Matches (.oneOrMore item) p none

/-- All expressions match, one after the other. -/
inductive MatchesAll : List Expr → Nat → Option Nat → Prop
  | nil {p : Nat} : MatchesAll [] p (some p)
  | cons {e : Expr} {rest : List Expr} {p q : Nat} {o : Option Nat} (h : Matches e p (some q))
      (hrest : MatchesAll rest q o) : MatchesAll (e :: rest) p o
  | fails {e : Expr} {rest : List Expr} {p : Nat} (h : Matches e p none) :
      MatchesAll (e :: rest) p none

/-- The first of the expressions that matches. -/
inductive MatchesFirst : List Expr → Nat → Option Nat → Prop
  | nil {p : Nat} : MatchesFirst [] p none
  | first {e : Expr} {rest : List Expr} {p q : Nat} (h : Matches e p (some q)) :
      MatchesFirst (e :: rest) p (some q)
  | next {e : Expr} {rest : List Expr} {p : Nat} {o : Option Nat} (h : Matches e p none)
      (hrest : MatchesFirst rest p o) : MatchesFirst (e :: rest) p o

/-- The expression matches again and again, as often as it makes progress. -/
inductive Repeats : Expr → Nat → Nat → Prop
  | fails {e : Expr} {p : Nat} (h : Matches e p none) : Repeats e p p
  | stays {e : Expr} {p : Nat} (h : Matches e p (some p)) : Repeats e p p
  | moves {e : Expr} {p q last : Nat} (h : Matches e p (some q)) (hq : q ≠ p)
      (hrest : Repeats e q last) : Repeats e p last

end

variable {g stream}

mutual

/-- An expression has at most one meaning at a position. -/
theorem Matches.unique {e : Expr} {p : Nat} {o o' : Option Nat} :
    g.Matches stream e p o → g.Matches stream e p o' → o = o'
  | .reference hr h, .reference hr' h' => by
    cases hr.symm.trans hr'
    exact h.unique h'
  | .reference hr _, .undefined hr' => by cases hr.symm.trans hr'
  | .undefined hr, .reference hr' _ => by cases hr.symm.trans hr'
  | .undefined _, .undefined _ => rfl
  | .token _, .token _ => rfl
  | .token h, .token_fails h' => absurd h h'
  | .token_fails h, .token h' => absurd h' h
  | .token_fails _, .token_fails _ => rfl
  | .literal _, .literal _ => rfl
  | .literal h, .literal_fails h' => absurd h h'
  | .literal_fails h, .literal h' => absurd h' h
  | .literal_fails _, .literal_fails _ => rfl
  | .sequence h, .sequence h' => h.unique h'
  | .choice h, .choice h' => h.unique h'
  | .optional h, .optional h' => h.unique h'
  | .optional h, .optional_fails h' => by cases h.unique h'
  | .optional_fails h, .optional h' => by cases h.unique h'
  | .optional_fails _, .optional_fails _ => rfl
  | .zeroOrMore h, .zeroOrMore h' => congrArg some (h.unique h')
  | .oneOrMore h hrest, .oneOrMore h' hrest' => by
    cases h.unique h'
    exact congrArg some (hrest.unique hrest')
  | .oneOrMore h _, .oneOrMore_fails h' => by cases h.unique h'
  | .oneOrMore_fails h, .oneOrMore h' _ => by cases h.unique h'
  | .oneOrMore_fails _, .oneOrMore_fails _ => rfl
termination_by structural h => h

theorem MatchesAll.unique {es : List Expr} {p : Nat} {o o' : Option Nat} :
    g.MatchesAll stream es p o → g.MatchesAll stream es p o' → o = o'
  | .nil, .nil => rfl
  | .cons h hrest, .cons h' hrest' => by
    cases h.unique h'
    exact hrest.unique hrest'
  | .cons h _, .fails h' => by cases h.unique h'
  | .fails h, .cons h' _ => by cases h.unique h'
  | .fails _, .fails _ => rfl
termination_by structural h => h

theorem MatchesFirst.unique {es : List Expr} {p : Nat} {o o' : Option Nat} :
    g.MatchesFirst stream es p o → g.MatchesFirst stream es p o' → o = o'
  | .nil, .nil => rfl
  | .first h, .first h' => h.unique h'
  | .first h, .next h' _ => by cases h.unique h'
  | .next h _, .first h' => by cases h.unique h'
  | .next _ hrest, .next _ hrest' => hrest.unique hrest'
termination_by structural h => h

theorem Repeats.unique {e : Expr} {p q q' : Nat} :
    g.Repeats stream e p q → g.Repeats stream e p q' → q = q'
  | .fails _, .fails _ => rfl
  | .fails _, .stays _ => rfl
  | .fails h, .moves h' _ _ => by cases h.unique h'
  | .stays _, .fails _ => rfl
  | .stays _, .stays _ => rfl
  | .stays h, .moves h' hq _ => by
    cases h.unique h'
    exact absurd rfl hq
  | .moves h _ _, .fails h' => by cases h.unique h'
  | .moves h hq _, .stays h' => by
    cases h.unique h'
    exact absurd rfl hq
  | .moves h _ hrest, .moves h' _ hrest' => by
    cases h.unique h'
    exact hrest.unique hrest'
termination_by structural h => h

end

end Grammar

end GrammarForge
