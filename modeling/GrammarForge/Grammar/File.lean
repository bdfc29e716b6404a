import GrammarForge.Grammar.Body

/-!
# Grammars, from tokens

A grammar file is a sequence of attribute blocks, rules and stray semicolons. How a rule and the
whole grammar are built from their parts is up to a factory.
-/

namespace GrammarForge

structure AstFactory where
  makeRule : String → Bool → Expr → Span → Rule
  makeGrammar : String → Attributes → List Rule → Grammar

namespace AstFactory

def standard : AstFactory := ⟨Rule.mk, Grammar.mk⟩

/-- The factory that puts `lead` in front of the name of every rule. -/
def prepending (lead : String) : AstFactory :=
  ⟨fun name isPrivate expr span => ⟨lead ++ name, isPrivate, expr, span⟩, Grammar.mk⟩

end AstFactory

namespace GrammarFile

def attributeValue (v : Token) : Except GrammarError String :=
  match v.kind with
  | .quoted => .ok (Quoted.unquote v.text)
  | .ident => .ok v.text
  | _ => .error (.unexpectedToken v .attributeValue)

/-- An attribute block after its opening brace; the result is its pairs, in order, and the tokens
after the closing brace. -/
def readAttributes (length : Nat) :
    List Token → Except GrammarError (List (String × String) × List Token)
  | [] => .error (.unexpectedEnd length .attributeName)
  | t :: rest =>
    match t.kind with
    | .rightBrace => .ok ([], rest)
    | .semicolon => readAttributes length rest
    | .ident =>
      match rest with
      | [] => .error (.unexpectedEnd length .attributeEquals)
      | eq :: rest =>
        if eq.kind ≠ .equals then .error (.unexpectedToken eq .attributeEquals)
        else
          match rest with
          | [] => .error (.unexpectedEnd length .attributeValue)
          | v :: rest =>
            match attributeValue v with
            | .error e => .error e
            | .ok value =>
              (readAttributes length rest).map fun (pairs, after) =>
                ((t.text, value) :: pairs, after)
    | _ => .error (.unexpectedToken t .attributeName)

/-- Whether the token `t` in front of `rest` is the modifier of a rule. Before anything but a name
it is itself the name of the rule. -/
def isModifier (t : Token) (rest : List Token) : Bool :=
  t.text = "private" && rest.head?.any (·.kind = .ident)

def readNamedRule (factory : AstFactory) (length start : Nat) (isPrivate : Bool) (name : Token)
    (rest : List Token) : Except GrammarError (Rule × List Token) := do
  if name.kind ≠ .ident then .error (.unexpectedToken name .ruleName)
  else
    match rest with
    | [] => .error (.unexpectedEnd length .define)
    | d :: rest =>
      if d.kind ≠ .define then .error (.unexpectedToken d .define)
      else
        let body ← Body.read length d.span.stop [] .empty rest
        let rule := factory.makeRule name.text isPrivate body.expr ⟨start, body.stop⟩
        match body.rest with
        | s :: after => if s.kind = .semicolon then return (rule, after) else return (rule, s :: after)
        | [] => return (rule, [])

def readRule (factory : AstFactory) (length : Nat) (t : Token) (rest : List Token) :
    Except GrammarError (Rule × List Token) :=
  if isModifier t rest then
    match rest with
    | name :: rest => readNamedRule factory length t.span.start true name rest
    | [] => .error (.unexpectedEnd length .ruleName)
  else readNamedRule factory length t.span.start false t rest

theorem readAttributes_length {length : Nat} {ts after : List Token} {pairs : List (String × String)}
    (h : readAttributes length ts = .ok (pairs, after)) : after.length < ts.length := by
  fun_induction readAttributes length ts generalizing pairs with
  | case1 => cases h
  | case2 t rest _ => cases h; simp
  | case3 t rest _ ih => have := ih h; simp; omega
  | case4 => cases h
  | case5 => cases h
  | case6 => cases h
  | case7 => cases h
  | case8 t _ eq _ v rest value _ ih =>
    cases hr : readAttributes length rest with
    | error e => simp [hr, Except.map] at h
    | ok r =>
      simp only [hr, Except.map, Except.ok.injEq, Prod.mk.injEq] at h
      obtain ⟨_, rfl⟩ := h
      have := ih hr
      simp
      omega
  | case9 => cases h

theorem readNamedRule_length {factory : AstFactory} {length start : Nat} {isPrivate : Bool}
    {name : Token} {ts after : List Token} {rule : Rule}
    (h : readNamedRule factory length start isPrivate name ts = .ok (rule, after)) :
    after.length < ts.length := by
  unfold readNamedRule at h
  split at h
  · cases h
  · split at h
    · cases h
    · split at h
      · cases h
      · simp only [bind, Except.bind] at h
        split at h
        · cases h
        · rename_i body hb
          have hle := Body.read_rest_length hb
          split at h
          · rename_i s rest hs
            rw [hs] at hle
            split at h <;> cases h <;> simp at hle ⊢ <;> omega
          · cases h; simp

theorem readRule_length {factory : AstFactory} {length : Nat} {t : Token}
    {ts after : List Token} {rule : Rule}
    (h : readRule factory length t ts = .ok (rule, after)) : after.length < ts.length := by
  unfold readRule at h
  split at h
  · split at h
    · have := readNamedRule_length h
      simp
      omega
    · cases h
  · exact readNamedRule_length h

/-- The attribute pairs and the rules of a grammar with `length` bytes, each in order. -/
def readParts (factory : AstFactory) (length : Nat) (ts : List Token) :
    Except GrammarError (List (String × String) × List Rule) :=
  match ts with
  | [] => .ok ([], [])
  | t :: rest =>
    match t.kind with
    | .leftBrace =>
      match h : readAttributes length rest with
      | .error e => .error e
      | .ok (pairs, after) =>
        have := readAttributes_length h
        (readParts factory length after).map fun (more, rules) => (pairs ++ more, rules)
    | .semicolon => readParts factory length rest
    | _ =>
      match h : readRule factory length t rest with
      | .error e => .error e
      | .ok (rule, after) =>
        have := readRule_length h
        (readParts factory length after).map fun (pairs, rules) => (pairs, rule :: rules)
termination_by ts.length

def ofTokens (factory : AstFactory) (name : String) (length : Nat) (ts : List Token) :
    Except GrammarError Grammar :=
  (readParts factory length ts).map fun (pairs, rules) =>
    factory.makeGrammar name (Attributes.ofPairs pairs) rules

end GrammarFile

end GrammarForge
