import GrammarForge.Grammar.Basic
import GrammarForge.Grammar.Error

/-!
# The body of a rule, from tokens

Nothing ends a rule but the start of the next one, so the body of a rule goes on until a token that
cannot continue it. The reader takes the tokens one by one and keeps the groups that are open: for
each, the alternatives that are complete and the items of the one being read.
-/

namespace GrammarForge

/-- Whether a name stands for a token: it has a letter, and none in lower case. -/
def isTokenName (name : String) : Bool :=
  name.toList.any Char.isAlpha && !name.toList.any Char.isLower

namespace Body

/-- Whether a rule starts here: a name and `::=`, with or without `private` in front. -/
def startsRule : List Token → Bool
  | t :: rest =>
    let named : List Token → Bool
      | n :: d :: _ => n.kind = .ident && d.kind = .define
      | _ => false
    named (t :: rest) || (t.text = "private" && named rest)
  | [] => false

def collapse (join : List Expr → Expr) : List Expr → Expr
  | [e] => e
  | es => join es

/-- What has been read of a group. Both lists have the last entry first. -/
structure Level where
  alternatives : List Expr
  items : List Expr

namespace Level

def empty : Level := ⟨[], []⟩

def push (l : Level) (e : Expr) : Level := { l with items := e :: l.items }

def current (l : Level) : Expr := collapse .sequence l.items.reverse

def next (l : Level) : Level := ⟨l.current :: l.alternatives, []⟩

def expr (l : Level) : Expr := collapse .choice (l.current :: l.alternatives).reverse

end Level

inductive Group where
  | paren
  | bracket
deriving DecidableEq

namespace Group

def closingKind : Group → TokenKind
  | paren => .rightParen
  | bracket => .rightBracket

def closing : Group → Char
  | paren => ')'
  | bracket => ']'

def wrap : Group → Expr → Expr
  | paren, e => e
  | bracket, e => .optional e

end Group

def ofName (name : String) : Expr := if isTokenName name then .token name else .reference name

def repetition? : TokenKind → Option (Expr → Expr)
  | .star => some .zeroOrMore
  | .plus => some .oneOrMore
  | .question => some .optional
  | _ => none

/-- The open groups around the one being read, innermost first. -/
abbrev Outer := List (Group × Level)

/-- The body of a rule, the byte at which it ends, and the tokens after it. -/
structure Result where
  expr : Expr
  stop : Nat
  rest : List Token

/-- What follows cannot continue the body. A group that is open then lacks its closing brace, which
`missing` reports. -/
def finish (stop : Nat) (outer : Outer) (level : Level) (rest : List Token)
    (missing : Expected → GrammarError) : Except GrammarError Result :=
  match outer with
  | [] => .ok ⟨level.expr, stop, rest⟩
  | (group, _) :: _ => .error (missing (.closing group.closing))

/-- Read on. The grammar has `length` bytes and the last token ended at byte `stop`. -/
def read (length stop : Nat) (outer : Outer) (level : Level) :
    List Token → Except GrammarError Result
  | [] => finish stop outer level [] (.unexpectedEnd length)
  | t :: rest =>
    if startsRule (t :: rest) then finish stop outer level (t :: rest) (.unexpectedToken t)
    else
      match t.kind with
      | .ident => read length t.span.stop outer (level.push (ofName t.text)) rest
      | .quoted =>
        read length t.span.stop outer (level.push (.literal (Quoted.unquote t.text))) rest
      | .leftParen => read length t.span.stop ((.paren, level) :: outer) .empty rest
      | .leftBracket => read length t.span.stop ((.bracket, level) :: outer) .empty rest
      | .pipe => read length t.span.stop outer level.next rest
      | kind =>
        match repetition? kind, level.items, outer with
        | some op, e :: items, _ =>
          read length t.span.stop outer ⟨level.alternatives, op e :: items⟩ rest
        | _, _, (group, enclosing) :: outer' =>
          if kind = group.closingKind then
            read length t.span.stop outer' (enclosing.push (group.wrap level.expr)) rest
          else .error (.unexpectedToken t (.closing group.closing))
        | _, _, [] => .ok ⟨level.expr, stop, t :: rest⟩

theorem finish_rest {stop : Nat} {outer : Outer} {level : Level} {rest : List Token}
    {missing : Expected → GrammarError} {r : Result}
    (h : finish stop outer level rest missing = .ok r) : r.rest = rest := by
  unfold finish at h
  split at h <;> cases h
  rfl

theorem read_rest_length {length stop : Nat} {outer : Outer} {level : Level} {ts : List Token}
    {r : Result} (h : read length stop outer level ts = .ok r) : r.rest.length ≤ ts.length := by
  fun_induction read length stop outer level ts with
  | case1 => simp [finish_rest h]
  | case2 => simp [finish_rest h]
  | case3 _ _ _ _ _ _ _ ih => have := ih h; simp; omega
  | case4 _ _ _ _ _ _ _ ih => have := ih h; simp; omega
  | case5 _ _ _ _ _ _ _ ih => have := ih h; simp; omega
  | case6 _ _ _ _ _ _ _ ih => have := ih h; simp; omega
  | case7 _ _ _ _ _ _ _ ih => have := ih h; simp; omega
  | case8 => rename_i ih; have := ih h; simp; omega
  | case9 => rename_i ih; have := ih h; simp; omega
  | case10 => cases h
  | case11 => cases h; simp

end Body

end GrammarForge
