import GrammarForge.Proofs.Code.Lexemes

/-!
# Generated code is read back

A reader for the language of generated code, by recursive descent over lexemes. `||` binds less than
`&&`, which binds less than `==`, which binds less than `!`. A block at the end of a block ends
there, with no operator after it. The code of a condition that keeps to these rules is read back as
the condition.
-/

namespace GrammarForge.Code

/-! ## The reader -/

/-- The lexemes after the expected ones. -/
def after? : List Lexeme → List Lexeme → Option (List Lexeme)
  | [], ls => some ls
  | expected :: more, l :: ls => if l = expected then after? more ls else none
  | _ :: _, [] => none

/-- A list of one condition is that condition. -/
def Condition.collapse (join : List Condition → Condition) : List Condition → Condition
  | [c] => c
  | cs => join cs

/-- The lexemes of `b.mark() == m`. -/
def atMarkLexemes : List Lexeme :=
  [.word "b", .sign ".", .word "mark", .sign "(", .sign ")", .sign "==", .word "m"]

/-- The lexemes of `b.consume(TokenType::`. -/
def consumeLexemes : List Lexeme :=
  [.word "b", .sign ".", .word "consume", .sign "(", .word "TokenType", .sign "::"]

/-- The lexemes of `b.consume_text(`. -/
def consumeTextLexemes : List Lexeme := [.word "b", .sign ".", .word "consume_text", .sign "("]

/-- The lexemes of `let m = b.mark();`. -/
def markLexemes : List Lexeme :=
  [.word "let", .word "m", .sign "=", .word "b", .sign ".", .word "mark", .sign "(", .sign ")",
    .sign ";"]

/-- The lexemes of `b.rollback(m);`. -/
def rollbackLexemes : List Lexeme :=
  [.word "b", .sign ".", .word "rollback", .sign "(", .word "m", .sign ")", .sign ";"]

/-- The lexemes of `let _ =`. -/
def ignoreLexemes : List Lexeme := [.word "let", .word "_", .sign "="]

/-- The lexemes of `{ break; }`. -/
def breakLexemes : List Lexeme := [.sign "\x7b", .word "break", .sign ";", .sign "\x7d"]

mutual

/-- Conditions with `||` between them. -/
def readDisjuncts : Nat → List Lexeme → Option (List Condition × List Lexeme)
  | 0, _ => none
  | n + 1, ls => do
    let (parts, rest) ← readConjuncts n ls
    match after? [.sign "||"] rest with
    | none => return ([.collapse .all parts], rest)
    | some rest =>
      let (more, rest) ← readDisjuncts n rest
      return (.collapse .all parts :: more, rest)

/-- Conditions with `&&` between them. -/
def readConjuncts : Nat → List Lexeme → Option (List Condition × List Lexeme)
  | 0, _ => none
  | n + 1, ls => do
    let (first, rest) ← readOperand n ls
    match after? [.sign "&&"] rest with
    | none => return ([first], rest)
    | some rest =>
      let (more, rest) ← readConjuncts n rest
      return (first :: more, rest)

/-- A comparison, or what can stand on either side of an operator. -/
def readOperand : Nat → List Lexeme → Option (Condition × List Lexeme)
  | 0, _ => none
  | n + 1, ls =>
    match after? atMarkLexemes ls with
    | some rest => some (.atMark, rest)
    | none => readUnary n ls

/-- A condition without operators other than `!` in front. -/
def readUnary : Nat → List Lexeme → Option (Condition × List Lexeme)
  | 0, _ => none
  | n + 1, ls =>
    if let some rest := after? [.word "true"] ls then some (.truth true, rest)
    else if let some rest := after? [.word "false"] ls then some (.truth false, rest)
    else if let some (.word variant :: rest) := after? consumeLexemes ls then do
      let rest ← after? [.sign ")"] rest
      return (.consume variant, rest)
    else if let some (.text text :: rest) := after? consumeTextLexemes ls then do
      let rest ← after? [.sign ")"] rest
      return (.consumeText text, rest)
    else if let some (.word function :: rest) := after? [.word "Self", .sign "::"] ls then do
      let rest ← after? [.sign "(", .word "b", .sign ")"] rest
      return (.call function, rest)
    else if let some rest := after? [.sign "!"] ls then do
      let (operand, rest) ← readUnary n rest
      return (.negation operand, rest)
    else if let some rest := after? [.sign "("] ls then do
      let (parts, rest) ← readDisjuncts n rest
      let rest ← after? [.sign ")"] rest
      return (.parens (.collapse .any parts), rest)
    else if let some rest := after? [.word "if"] ls then do
      let (parts, rest) ← readDisjuncts n rest
      let (value, rest) ← readBlock n rest
      let rest ← after? [.word "else"] rest
      let (other, rest) ← readBlock n rest
      return (.branch (.collapse .any parts) value other, rest)
    else readBlock n ls

/-- Statements and a value between braces. -/
def readBlock : Nat → List Lexeme → Option (Condition × List Lexeme)
  | 0, _ => none
  | n + 1, ls => do
    let rest ← after? [.sign "\x7b"] ls
    match ← readBody n rest with
    | (body, some value, rest) => return (.block body value, rest)
    | (_, none, _) => none

/-- Statements up to a closing brace, with or without a value at the end. -/
def readBody : Nat → List Lexeme → Option (List Statement × Option Condition × List Lexeme)
  | 0, _ => none
  | n + 1, ls =>
    if let some rest := after? [.sign "\x7d"] ls then some ([], none, rest)
    else if let some rest := after? markLexemes ls then do
      let (body, value, rest) ← readBody n rest
      return (.mark :: body, value, rest)
    else if let some rest := after? rollbackLexemes ls then do
      let (body, value, rest) ← readBody n rest
      return (.rollback :: body, value, rest)
    else if let some rest := after? ignoreLexemes ls then do
      let (parts, rest) ← readDisjuncts n rest
      let rest ← after? [.sign ";"] rest
      let (body, value, rest) ← readBody n rest
      return (.ignore (.collapse .any parts) :: body, value, rest)
    else if let some rest := after? [.word "loop", .sign "\x7b"] ls then do
      match ← readBody n rest with
      | (inner, none, rest) =>
        let (body, value, rest) ← readBody n rest
        return (.loop inner :: body, value, rest)
      | (_, some _, _) => none
    else if let some rest := after? [.word "if"] ls then do
      let (parts, rest) ← readDisjuncts n rest
      match after? breakLexemes rest with
      | some rest =>
        let (body, value, rest) ← readBody n rest
        return (.breakIf (.collapse .any parts) :: body, value, rest)
      | none =>
        let (value, rest) ← readBlock n rest
        let rest ← after? [.word "else"] rest
        let (other, rest) ← readBlock n rest
        let rest ← after? [.sign "\x7d"] rest
        return ([], some (.branch (.collapse .any parts) value other), rest)
    else if let some _ := after? [.sign "\x7b"] ls then do
      let (value, rest) ← readBlock n ls
      let rest ← after? [.sign "\x7d"] rest
      return ([], some value, rest)
    else do
      let (parts, rest) ← readDisjuncts n ls
      let rest ← after? [.sign "\x7d"] rest
      return ([], some (.collapse .any parts), rest)

end

/-- The condition that a text is the code of. -/
def Condition.ofCode? (code : String) : Option Condition := do
  let ls ← lex code
  let (parts, rest) ← readDisjuncts (4 * ls.length + 3) ls
  if rest.isEmpty then return .collapse .any parts else none

/-! ## What is read back -/

mutual

/-- The lexemes of the code of a condition. -/
def Condition.lexemes : Condition → List Lexeme
  | .truth value => [.word (if value then "true" else "false")]
  | .consume variant => consumeLexemes ++ [.word variant, .sign ")"]
  | .consumeText text => consumeTextLexemes ++ [.text text, .sign ")"]
  | .call function =>
    [.word "Self", .sign "::", .word function, .sign "(", .word "b", .sign ")"]
  | .atMark => atMarkLexemes
  | .negation operand => .sign "!" :: operand.lexemes
  | .all parts => Condition.joinedLexemes (.sign "&&") parts
  | .any parts => Condition.joinedLexemes (.sign "||") parts
  | .parens inner => .sign "(" :: (inner.lexemes ++ [.sign ")"])
  | .block body value =>
    .sign "\x7b" :: (Statement.sequenceLexemes body ++ (value.lexemes ++ [.sign "\x7d"]))
  | .branch test value other =>
    .word "if" :: (test.lexemes ++ (value.lexemes ++ .word "else" :: other.lexemes))

def Condition.joinedLexemes (connective : Lexeme) : List Condition → List Lexeme
  | [] => []
  | part :: rest =>
    part.lexemes ++
      (if rest.isEmpty then [] else connective :: Condition.joinedLexemes connective rest)

def Statement.lexemes : Statement → List Lexeme
  | .mark => markLexemes
  | .rollback => rollbackLexemes
  | .ignore condition => ignoreLexemes ++ (condition.lexemes ++ [.sign ";"])
  | .loop body => .word "loop" :: .sign "\x7b" :: (Statement.sequenceLexemes body ++ [.sign "\x7d"])
  | .breakIf condition => .word "if" :: (condition.lexemes ++ breakLexemes)

def Statement.sequenceLexemes : List Statement → List Lexeme
  | [] => []
  | statement :: rest => statement.lexemes ++ Statement.sequenceLexemes rest

end

/-- How strongly the outermost operator of a condition binds. -/
def Condition.binding : Condition → Nat
  | .any _ => 0
  | .all _ => 1
  | .atMark => 2
  | _ => 3

def Condition.isBlock : Condition → Prop
  | .block _ _ => True
  | _ => False

mutual

/-- The code of the condition keeps to the rules of the language: names are words, operands bind
more strongly than the operators between them, and the branches of a condition are blocks. -/
def Condition.IsReadable : Condition → Prop
  | .truth _ | .consumeText _ | .atMark => True
  | .consume variant => IsWord variant.toList
  | .call function => IsWord function.toList
  | .negation operand => operand.IsReadable ∧ 3 ≤ operand.binding
  | .all parts => 2 ≤ parts.length ∧ Condition.AreReadable 2 parts
  | .any parts => 2 ≤ parts.length ∧ Condition.AreReadable 1 parts
  | .parens inner => inner.IsReadable
  | .block body value => Statement.AreReadable body ∧ value.IsReadable ∧ 3 ≤ value.binding
  | .branch test value other => test.IsReadable ∧ (value.IsReadable ∧ value.isBlock) ∧
      other.IsReadable ∧ other.isBlock

def Condition.AreReadable (least : Nat) : List Condition → Prop
  | [] => True
  | part :: rest =>
    (part.IsReadable ∧ least ≤ part.binding) ∧ Condition.AreReadable least rest

def Statement.IsReadable : Statement → Prop
  | .mark | .rollback => True
  | .ignore condition | .breakIf condition => condition.IsReadable
  | .loop body => Statement.AreReadable body

def Statement.AreReadable : List Statement → Prop
  | [] => True
  | statement :: rest => statement.IsReadable ∧ Statement.AreReadable rest

end

theorem after?_append (expected ls : List Lexeme) : after? expected (expected ++ ls) = some ls := by
  induction expected with
  | nil => rfl
  | cons l expected ih => simp [after?, ih]

theorem after?_of_head? {l : Lexeme} {more ls : List Lexeme} (h : ls.head? ≠ some l) :
    after? (l :: more) ls = none := by
  cases ls with
  | nil => rfl
  | cons k ls =>
      have hne : k ≠ l := fun heq => h (by rw [heq]; rfl)
      rw [after?, if_neg hne]

/-- What a condition without free operators can start with. -/
def firstLexemes : List Lexeme :=
  [.word "true", .word "false", .word "b", .word "Self", .word "if", .sign "!", .sign "(",
    .sign "\x7b"]

theorem Condition.head?_ne {c : Condition} (hc : 3 ≤ c.binding) {l : Lexeme}
    (hl : l ∉ firstLexemes) (rest : List Lexeme) : (c.lexemes ++ rest).head? ≠ some l := by
  have hne {first : Lexeme} (hfirst : first ∈ firstLexemes) : some first ≠ some l := by
    intro heq
    cases heq
    exact hl hfirst
  cases c with
  | truth value => cases value <;> exact hne (by decide)
  | all | any | atMark => simp [binding] at hc
  | _ => exact hne (by decide)

/-! ## Reading back -/

/-- The reader of a condition by itself, with at least `4 * k + extra` steps for `k` lexemes. -/
def UnaryReads (c : Condition) : Prop :=
  ∀ n rest, 4 * c.lexemes.length ≤ n → readUnary n (c.lexemes ++ rest) = some (c, rest)

def OperandReads (c : Condition) : Prop :=
  ∀ n rest, 4 * c.lexemes.length + 1 ≤ n → readOperand n (c.lexemes ++ rest) = some (c, rest)

/-- A block is also read where only a block can stand. -/
def BlockReads (c : Condition) : Prop :=
  ∀ n rest, 4 * c.lexemes.length ≤ n + 1 → readBlock n (c.lexemes ++ rest) = some (c, rest)

/-- A condition is read as one of the alternatives if no `&&` comes after it. -/
def ConjunctionReads (c : Condition) : Prop :=
  ∀ n rest, rest.head? ≠ some (.sign "&&") → 4 * c.lexemes.length + 2 ≤ n →
    ∃ parts, readConjuncts n (c.lexemes ++ rest) = some (parts, rest) ∧ .collapse .all parts = c

/-- A condition is read as a whole if no operator comes after it. -/
def ConditionReads (c : Condition) : Prop :=
  ∀ n rest, rest.head? ≠ some (.sign "&&") → rest.head? ≠ some (.sign "||") →
    4 * c.lexemes.length + 3 ≤ n →
    ∃ parts, readDisjuncts n (c.lexemes ++ rest) = some (parts, rest) ∧ .collapse .any parts = c

/-- A statement is read in front of any statements. -/
def StatementReads (st : Statement) : Prop :=
  ∀ n rest, 4 * st.lexemes.length ≤ n →
    readBody (n + 1) (st.lexemes ++ rest) = (readBody n rest).map fun (body, value, rest) =>
      (st :: body, value, rest)

/-- At the end of a block, a condition is read as the value of the block. -/
def ValueReads (c : Condition) : Prop :=
  ∀ n rest, 4 * (c.lexemes.length + 1) + 2 ≤ n →
    readBody n (c.lexemes ++ .sign "\x7d" :: rest) = some ([], some c, rest)

/-- How a condition is read back, at all places where it can stand. -/
structure Condition.ReadsBack (c : Condition) : Prop where
  unary : 3 ≤ c.binding → UnaryReads c
  operand : 2 ≤ c.binding → OperandReads c
  conjunction : 1 ≤ c.binding → ConjunctionReads c
  condition : ConditionReads c
  block : c.isBlock → BlockReads c
  value : 3 ≤ c.binding → ValueReads c

theorem ConditionReads.of_conjunction {c : Condition} (h : ConjunctionReads c) :
    ConditionReads c := by
  intro n rest hand hor hn
  obtain ⟨n, rfl⟩ := Nat.exists_eq_succ_of_ne_zero (show n ≠ 0 by omega)
  obtain ⟨parts, hparts, rfl⟩ := h n rest hand (by omega)
  exact ⟨[.collapse .all parts], by simp [readDisjuncts, hparts, after?_of_head? hor], rfl⟩

theorem ConjunctionReads.of_operand {c : Condition} (h : OperandReads c) :
    ConjunctionReads c := by
  intro n rest hand hn
  obtain ⟨n, rfl⟩ := Nat.exists_eq_succ_of_ne_zero (show n ≠ 0 by omega)
  have hread := h n rest (by omega)
  exact ⟨[c], by simp [readConjuncts, hread, after?_of_head? hand], rfl⟩

theorem OperandReads.of_unary {c : Condition} (hc : 3 ≤ c.binding) (h : UnaryReads c) :
    OperandReads c := by
  intro n rest hn
  obtain ⟨n, rfl⟩ := Nat.exists_eq_succ_of_ne_zero (show n ≠ 0 by omega)
  have hmark : after? atMarkLexemes (c.lexemes ++ rest) = none := by
    cases c with
    | truth value => cases value <;> simp [Condition.lexemes, after?, atMarkLexemes]
    | atMark => simp [Condition.binding] at hc
    | all => simp [Condition.binding] at hc
    | any => simp [Condition.binding] at hc
    | _ => simp [Condition.lexemes, after?, atMarkLexemes, consumeLexemes, consumeTextLexemes]
  have hread := h n rest (by omega)
  simp [readOperand, hmark, hread]

theorem Condition.ReadsBack.of_unary {c : Condition} (hc : 3 ≤ c.binding) (h : UnaryReads c)
    (hblock : c.isBlock → BlockReads c) (hvalue : ConditionReads c → ValueReads c) :
    c.ReadsBack :=
  have hoperand := OperandReads.of_unary hc h
  have hconjunction := ConjunctionReads.of_operand hoperand
  have hcondition := ConditionReads.of_conjunction hconjunction
  ⟨fun _ => h, fun _ => hoperand, fun _ => hconjunction, hcondition, hblock,
    fun _ => hvalue hcondition⟩

/-- The code starts like no statement, and is in no braces. -/
def Condition.isPlain : Condition → Prop
  | .truth _ | .consume _ | .consumeText _ | .call _ | .negation _ | .parens _ => True
  | _ => False

theorem ValueReads.of_condition {c : Condition} (hc : c.isPlain) (h : ConditionReads c) :
    ValueReads c := by
  intro n rest hn
  obtain ⟨n, rfl⟩ := Nat.exists_eq_succ_of_ne_zero (show n ≠ 0 by omega)
  obtain ⟨parts, hread, hparts⟩ := h n (.sign "\x7d" :: rest) (by simp) (by simp) (by omega)
  cases c with
  | truth value =>
      cases value <;> simp [Condition.lexemes, readBody, after?, markLexemes, rollbackLexemes,
        ignoreLexemes] at hread ⊢ <;> simp [hread, hparts, after?]
  | block | branch | atMark | all | any => exact hc.elim
  | _ =>
      simp [Condition.lexemes, readBody, after?, markLexemes, rollbackLexemes, ignoreLexemes,
        consumeLexemes, consumeTextLexemes] at hread ⊢
      simp [hread, hparts, after?]

theorem Condition.ReadsBack.of_plain {c : Condition} (hc : c.isPlain) (h : UnaryReads c) :
    c.ReadsBack := by
  refine .of_unary ?_ h (fun hblock => ?_) (.of_condition hc)
  · cases c <;> simp_all [binding, isPlain]
  · cases c <;> simp_all [isBlock, isPlain]

theorem readsBack_truth (value : Bool) : (Condition.truth value).ReadsBack := by
  refine .of_plain trivial fun n rest hn => ?_
  simp only [Condition.lexemes, List.length_singleton] at hn
  obtain ⟨n, rfl⟩ := Nat.exists_eq_succ_of_ne_zero (show n ≠ 0 by omega)
  cases value <;> simp [Condition.lexemes, readUnary, after?]

theorem readsBack_consume (variant : String) : (Condition.consume variant).ReadsBack := by
  refine .of_plain trivial fun n rest hn => ?_
  simp only [Condition.lexemes, List.length_append, List.length_cons] at hn
  obtain ⟨n, rfl⟩ := Nat.exists_eq_succ_of_ne_zero (show n ≠ 0 by omega)
  simp [Condition.lexemes, readUnary, after?, consumeLexemes]

theorem readsBack_consumeText (text : String) : (Condition.consumeText text).ReadsBack := by
  refine .of_plain trivial fun n rest hn => ?_
  simp only [Condition.lexemes, List.length_append, List.length_cons] at hn
  obtain ⟨n, rfl⟩ := Nat.exists_eq_succ_of_ne_zero (show n ≠ 0 by omega)
  simp [Condition.lexemes, readUnary, after?, consumeLexemes, consumeTextLexemes]

theorem readsBack_call (function : String) : (Condition.call function).ReadsBack := by
  refine .of_plain trivial fun n rest hn => ?_
  simp only [Condition.lexemes, List.length_cons] at hn
  obtain ⟨n, rfl⟩ := Nat.exists_eq_succ_of_ne_zero (show n ≠ 0 by omega)
  simp [Condition.lexemes, readUnary, after?, consumeLexemes, consumeTextLexemes]

theorem readsBack_atMark : Condition.atMark.ReadsBack := by
  have hoperand : OperandReads .atMark := by
    intro n rest hn
    obtain ⟨n, rfl⟩ := Nat.exists_eq_succ_of_ne_zero (show n ≠ 0 by omega)
    simp [Condition.lexemes, readOperand, after?_append]
  have hconjunction := ConjunctionReads.of_operand hoperand
  exact ⟨by simp [Condition.binding], fun _ => hoperand, fun _ => hconjunction,
    .of_conjunction hconjunction, by simp [Condition.isBlock], by simp [Condition.binding]⟩

theorem Condition.ReadsBack.negation {c : Condition} (h : c.ReadsBack) (hc : 3 ≤ c.binding) :
    (Condition.negation c).ReadsBack := by
  refine .of_plain trivial fun n rest hn => ?_
  simp only [Condition.lexemes, List.length_cons] at hn
  obtain ⟨n, rfl⟩ := Nat.exists_eq_succ_of_ne_zero (show n ≠ 0 by omega)
  have hread := h.unary hc n rest (by omega)
  simp [Condition.lexemes, readUnary, after?, consumeLexemes, consumeTextLexemes, hread]

theorem Condition.ReadsBack.parens {c : Condition} (h : c.ReadsBack) :
    (Condition.parens c).ReadsBack := by
  refine .of_plain trivial fun n rest hn => ?_
  simp only [Condition.lexemes, List.length_cons, List.length_append, List.length_nil] at hn
  obtain ⟨n, rfl⟩ := Nat.exists_eq_succ_of_ne_zero (show n ≠ 0 by omega)
  obtain ⟨parts, hread, hparts⟩ := h.condition n (.sign ")" :: rest) (by simp) (by simp) (by omega)
  simp [Condition.lexemes, readUnary, after?, consumeLexemes, consumeTextLexemes, hread, hparts]

/-! ### Operators -/

theorem readConjuncts_joined {parts : List Condition} (hne : parts ≠ [])
    (hparts : ∀ c ∈ parts, OperandReads c) (n : Nat) (rest : List Lexeme)
    (hand : rest.head? ≠ some (.sign "&&"))
    (hn : 4 * (Condition.joinedLexemes (.sign "&&") parts).length + 2 ≤ n) :
    readConjuncts n (Condition.joinedLexemes (.sign "&&") parts ++ rest) = some (parts, rest) := by
  induction parts generalizing n with
  | nil => exact absurd rfl hne
  | cons part more ih =>
      obtain ⟨n, rfl⟩ := Nat.exists_eq_succ_of_ne_zero (show n ≠ 0 by omega)
      have hpart := hparts part (by simp)
      cases more with
      | nil =>
          simp only [Condition.joinedLexemes, List.isEmpty_nil, if_true, List.append_nil] at hn ⊢
          have hread := hpart n rest (by omega)
          simp [readConjuncts, hread, after?_of_head? hand]
      | cons next more =>
          have hmore := ih (by simp) fun c hc => hparts c (List.mem_cons_of_mem part hc)
          rw [Condition.joinedLexemes] at hn ⊢
          simp only [List.isEmpty_cons, Bool.false_eq_true, if_false, List.length_append,
            List.length_cons, List.append_assoc, List.cons_append] at hn ⊢
          have hread := hpart n (.sign "&&" ::
            (Condition.joinedLexemes (.sign "&&") (next :: more) ++ rest)) (by omega)
          simp [readConjuncts, hread, after?, hmore n (by omega)]

theorem readDisjuncts_joined {parts : List Condition} (hne : parts ≠ [])
    (hparts : ∀ c ∈ parts, ConjunctionReads c) (n : Nat) (rest : List Lexeme)
    (hand : rest.head? ≠ some (.sign "&&")) (hor : rest.head? ≠ some (.sign "||"))
    (hn : 4 * (Condition.joinedLexemes (.sign "||") parts).length + 3 ≤ n) :
    readDisjuncts n (Condition.joinedLexemes (.sign "||") parts ++ rest) = some (parts, rest) := by
  induction parts generalizing n with
  | nil => exact absurd rfl hne
  | cons part more ih =>
      obtain ⟨n, rfl⟩ := Nat.exists_eq_succ_of_ne_zero (show n ≠ 0 by omega)
      have hpart := hparts part (by simp)
      cases more with
      | nil =>
          simp only [Condition.joinedLexemes, List.isEmpty_nil, if_true, List.append_nil] at hn ⊢
          obtain ⟨conjuncts, hread, hcollapse⟩ := hpart n rest hand (by omega)
          simp [readDisjuncts, hread, after?_of_head? hor, hcollapse]
      | cons next more =>
          have hmore := ih (by simp) fun c hc => hparts c (List.mem_cons_of_mem part hc)
          rw [Condition.joinedLexemes] at hn ⊢
          simp only [List.isEmpty_cons, Bool.false_eq_true, if_false, List.length_append,
            List.length_cons, List.append_assoc, List.cons_append] at hn ⊢
          obtain ⟨conjuncts, hread, hcollapse⟩ := hpart n (.sign "||" ::
            (Condition.joinedLexemes (.sign "||") (next :: more) ++ rest)) (by simp) (by omega)
          simp [readDisjuncts, hread, hcollapse, after?, hmore n (by omega)]

theorem Condition.collapse_of_two {join : List Condition → Condition} {parts : List Condition}
    (h : 2 ≤ parts.length) : collapse join parts = join parts := by
  match parts, h with
  | _ :: _ :: _, _ => rfl

theorem Condition.ReadsBack.all {parts : List Condition} (hlength : 2 ≤ parts.length)
    (hparts : ∀ c ∈ parts, c.ReadsBack ∧ 2 ≤ c.binding) : (Condition.all parts).ReadsBack := by
  have hne : parts ≠ [] := List.ne_nil_of_length_pos (by omega)
  have hconjunction : ConjunctionReads (.all parts) := by
    intro n rest hand hn
    rw [Condition.lexemes] at hn ⊢
    have hread := readConjuncts_joined hne (fun c hc => (hparts c hc).1.operand (hparts c hc).2)
    exact ⟨parts, hread n rest hand hn, collapse_of_two hlength⟩
  exact ⟨by simp [binding], by simp [binding], fun _ => hconjunction,
    .of_conjunction hconjunction, by simp [isBlock], by simp [binding]⟩

theorem Condition.ReadsBack.any {parts : List Condition} (hlength : 2 ≤ parts.length)
    (hparts : ∀ c ∈ parts, c.ReadsBack ∧ 1 ≤ c.binding) : (Condition.any parts).ReadsBack := by
  have hne : parts ≠ [] := List.ne_nil_of_length_pos (by omega)
  have hcondition : ConditionReads (.any parts) := by
    intro n rest hand hor hn
    rw [Condition.lexemes] at hn ⊢
    have hread := readDisjuncts_joined hne fun c hc =>
      (hparts c hc).1.conjunction (hparts c hc).2
    exact ⟨parts, hread n rest hand hor hn, collapse_of_two hlength⟩
  exact ⟨by simp [binding], by simp [binding], by simp [binding], hcondition, by simp [isBlock],
    by simp [binding]⟩

/-! ### Blocks -/

theorem Condition.head?_of_isBlock {c : Condition} (h : c.isBlock) (rest : List Lexeme) :
    (c.lexemes ++ rest).head? = some (.sign "\x7b") := by
  cases c with
  | block body value => rfl
  | _ => exact h.elim

/-- What is read after the `if` of a branch. -/
theorem Condition.ReadsBack.branch_parts {test value other : Condition} (htest : test.ReadsBack)
    (hvalue : BlockReads value) (hvalueBlock : value.isBlock) (hother : BlockReads other)
    (n : Nat) (rest : List Lexeme)
    (hn : 4 * (test.lexemes.length + value.lexemes.length + other.lexemes.length + 1) ≤ n) :
    ∃ parts, readDisjuncts n (test.lexemes ++ (value.lexemes ++ .word "else" ::
        (other.lexemes ++ rest))) =
          some (parts, value.lexemes ++ .word "else" :: (other.lexemes ++ rest)) ∧
      .collapse .any parts = test ∧
      readBlock n (value.lexemes ++ .word "else" :: (other.lexemes ++ rest)) =
        some (value, .word "else" :: (other.lexemes ++ rest)) ∧
      readBlock n (other.lexemes ++ rest) = some (other, rest) := by
  have hhead := Condition.head?_of_isBlock hvalueBlock (.word "else" :: (other.lexemes ++ rest))
  have hcondition := htest.condition n (value.lexemes ++ .word "else" :: (other.lexemes ++ rest))
  rw [hhead] at hcondition
  obtain ⟨parts, hread, hparts⟩ := hcondition (by simp) (by simp) (by omega)
  exact ⟨parts, hread, hparts, hvalue n _ (by omega), hother n rest (by omega)⟩

/-- What comes after some statements of a body is read after them. -/
def BodyReads (body : List Statement) : Prop :=
  ∀ (tail rest : List Lexeme) (more : List Statement) (value : Option Condition),
    (∀ n, 4 * tail.length + 2 ≤ n → readBody n (tail ++ rest) = some (more, value, rest)) →
    ∀ n, 4 * ((Statement.sequenceLexemes body).length + tail.length) + 2 ≤ n →
      readBody n (Statement.sequenceLexemes body ++ (tail ++ rest)) =
        some (body ++ more, value, rest)

theorem Statement.lexemes_length_pos (st : Statement) : 1 ≤ st.lexemes.length := by
  cases st with
  | mark => decide
  | rollback => decide
  | ignore condition => simp [lexemes, ignoreLexemes]
  | loop body => simp [lexemes]
  | breakIf condition => simp [lexemes]

theorem BodyReads.of_statements {body : List Statement} (h : ∀ st ∈ body, StatementReads st) :
    BodyReads body := by
  intro tail rest more value htail
  -- every statement takes one step off the count and at least one lexeme off the text
  induction body with
  | nil =>
      intro n hn
      rw [Statement.sequenceLexemes, List.length_nil, Nat.zero_add] at hn
      exact htail n hn
  | cons st body ih =>
      intro n hn
      have hpos := st.lexemes_length_pos
      simp only [Statement.sequenceLexemes, List.length_append] at hn
      obtain ⟨n, rfl⟩ := Nat.exists_eq_succ_of_ne_zero (show n ≠ 0 by omega)
      have hbody := ih (fun st hst => h st (List.mem_cons_of_mem _ hst)) n (by omega)
      have hst := h st List.mem_cons_self n
        (Statement.sequenceLexemes body ++ (tail ++ rest)) (by omega)
      rw [Statement.sequenceLexemes, List.append_assoc, hst, hbody]
      rfl

theorem readBody_close (n : Nat) (rest : List Lexeme) (hn : 1 ≤ n) :
    readBody n (.sign "\x7d" :: rest) = some ([], none, rest) := by
  obtain ⟨n, rfl⟩ := Nat.exists_eq_succ_of_ne_zero (show n ≠ 0 by omega)
  simp [readBody, after?]

theorem Statement.head?_ne_break (st : Statement) (rest : List Lexeme) :
    (st.lexemes ++ rest).head? ≠ some (.word "break") := by
  cases st <;> simp [lexemes, markLexemes, rollbackLexemes, ignoreLexemes]

/-- A block with a value does not read as `{ break; }`. -/
theorem after?_breakLexemes_block (body : List Statement) {value : Condition}
    (hvalue : 3 ≤ value.binding) (rest : List Lexeme) :
    after? breakLexemes ((Condition.block body value).lexemes ++ rest) = none := by
  have hhead : (Statement.sequenceLexemes body ++
      (value.lexemes ++ .sign "\x7d" :: rest)).head? ≠ some (.word "break") := by
    cases body with
    | nil => exact Condition.head?_ne hvalue (by decide) _
    | cons st body =>
        rw [Statement.sequenceLexemes, List.append_assoc]
        exact st.head?_ne_break _
  have hafter : after? [.word "break", .sign ";", .sign "\x7d"] _ = none := after?_of_head? hhead
  simpa [Condition.lexemes, breakLexemes, after?] using hafter

theorem Condition.ReadsBack.branch {test other value : Condition} {body : List Statement}
    (htest : test.ReadsBack) (hblock : BlockReads (.block body value)) (hvalue : 3 ≤ value.binding)
    (hother : BlockReads other) : (Condition.branch test (.block body value) other).ReadsBack := by
  refine .of_unary (by simp [binding]) (fun n rest hn => ?_) (by simp [isBlock])
    fun _ n rest hn => ?_
  · rw [lexemes, List.length_cons, List.length_append, List.length_append, List.length_cons] at hn
    obtain ⟨n, rfl⟩ := Nat.exists_eq_succ_of_ne_zero (show n ≠ 0 by omega)
    obtain ⟨parts, hread, hparts, hreadValue, hreadOther⟩ :=
      htest.branch_parts hblock trivial hother n rest (by omega)
    rw [lexemes]
    simp [readUnary, after?, consumeLexemes, consumeTextLexemes, hread, hparts, hreadValue,
      hreadOther]
  · rw [lexemes, List.length_cons, List.length_append, List.length_append, List.length_cons] at hn
    obtain ⟨n, rfl⟩ := Nat.exists_eq_succ_of_ne_zero (show n ≠ 0 by omega)
    obtain ⟨parts, hread, hparts, hreadValue, hreadOther⟩ :=
      htest.branch_parts hblock trivial hother n (.sign "\x7d" :: rest) (by omega)
    have hbreak := after?_breakLexemes_block body hvalue
      (.word "else" :: (other.lexemes ++ .sign "\x7d" :: rest))
    rw [lexemes]
    simp [readBody, after?, markLexemes, rollbackLexemes, ignoreLexemes, hread, hparts, hbreak,
      hreadValue, hreadOther]

theorem BlockReads.of_body {body : List Statement} {value : Condition} (hbody : BodyReads body)
    (hvalue : ValueReads value) : BlockReads (.block body value) := by
  intro n rest hn
  simp only [Condition.lexemes, List.length_cons, List.length_append, List.length_nil] at hn
  obtain ⟨n, rfl⟩ := Nat.exists_eq_succ_of_ne_zero (show n ≠ 0 by omega)
  have hread := hbody (value.lexemes ++ [.sign "\x7d"]) rest [] (some value)
    (fun k hk => by
      rw [List.append_assoc]
      exact hvalue k rest (by simpa using hk))
    n (by simp only [List.length_append, List.length_cons, List.length_nil]; omega)
  simp at hread
  simp [Condition.lexemes, readBlock, after?, hread]

theorem Condition.ReadsBack.of_block {body : List Statement} {value : Condition}
    (h : BlockReads (.block body value)) : (Condition.block body value).ReadsBack := by
  have hlexemes (rest : List Lexeme) : (Condition.block body value).lexemes ++ rest =
      .sign "\x7b" :: (Statement.sequenceLexemes body ++
        (value.lexemes ++ .sign "\x7d" :: rest)) := by
    simp [lexemes]
  have hpos : 1 ≤ (Condition.block body value).lexemes.length := by simp [lexemes]
  refine .of_unary (by simp [binding]) (fun n rest hn => ?_) (fun _ => h) fun _ n rest hn => ?_
  · obtain ⟨n, rfl⟩ := Nat.exists_eq_succ_of_ne_zero (show n ≠ 0 by omega)
    have hread := h n rest (by omega)
    rw [hlexemes] at hread ⊢
    simp [readUnary, after?, consumeLexemes, consumeTextLexemes, hread]
  · obtain ⟨n, rfl⟩ := Nat.exists_eq_succ_of_ne_zero (show n ≠ 0 by omega)
    have hread := h n (.sign "\x7d" :: rest) (by omega)
    rw [hlexemes] at hread ⊢
    simp [readBody, after?, markLexemes, rollbackLexemes, ignoreLexemes, hread]

/-! ### Statements -/

theorem statementReads_mark : StatementReads .mark := by
  intro n rest _
  simp [Statement.lexemes, readBody, after?, markLexemes]
  cases readBody n rest <;> rfl

theorem statementReads_rollback : StatementReads .rollback := by
  intro n rest _
  simp [Statement.lexemes, readBody, after?, markLexemes, rollbackLexemes]
  cases readBody n rest <;> rfl

theorem StatementReads.ignore {c : Condition} (h : c.ReadsBack) : StatementReads (.ignore c) := by
  intro n rest hn
  simp only [Statement.lexemes, ignoreLexemes, List.length_append, List.length_cons] at hn
  obtain ⟨parts, hread, hparts⟩ := h.condition n (.sign ";" :: rest) (by simp) (by simp) (by omega)
  simp [Statement.lexemes, readBody, after?, markLexemes, rollbackLexemes, ignoreLexemes, hread,
    hparts]
  cases readBody n rest <;> rfl

theorem StatementReads.breakIf {c : Condition} (h : c.ReadsBack) :
    StatementReads (.breakIf c) := by
  intro n rest hn
  simp only [Statement.lexemes, breakLexemes, List.length_append, List.length_cons] at hn
  obtain ⟨parts, hread, hparts⟩ := h.condition n (breakLexemes ++ rest)
    (by simp [breakLexemes]) (by simp [breakLexemes]) (by omega)
  simp [Statement.lexemes, readBody, after?, markLexemes, rollbackLexemes, ignoreLexemes, hread,
    hparts, after?_append]
  cases readBody n rest <;> rfl

theorem StatementReads.loop {body : List Statement} (h : BodyReads body) :
    StatementReads (.loop body) := by
  intro n rest hn
  simp only [Statement.lexemes, List.length_append, List.length_cons, List.length_nil] at hn
  have hread := h [.sign "\x7d"] rest [] none
    (fun k hk => readBody_close k rest (by omega)) n
    (by simp only [List.length_cons, List.length_nil]; omega)
  simp at hread
  simp [Statement.lexemes, readBody, after?, markLexemes, rollbackLexemes, ignoreLexemes, hread]
  cases readBody n rest <;> rfl

/-! ### All conditions -/

mutual

theorem Condition.readsBack : (c : Condition) → c.IsReadable → c.ReadsBack
  | .truth value, _ => readsBack_truth value
  | .consume variant, _ => readsBack_consume variant
  | .consumeText text, _ => readsBack_consumeText text
  | .call function, _ => readsBack_call function
  | .atMark, _ => readsBack_atMark
  | .negation operand, h => (operand.readsBack h.1).negation h.2
  | .all parts, h => .all h.1 (Condition.readsBack_of_areReadable parts h.2)
  | .any parts, h => .any h.1 (Condition.readsBack_of_areReadable parts h.2)
  | .parens inner, h => (inner.readsBack h).parens
  | .block body value, h =>
    have hbody := BodyReads.of_statements (Statement.reads_of_areReadable body h.1)
    .of_block (.of_body hbody ((value.readsBack h.2.1).value h.2.2))
  | .branch test value other, h => by
    obtain ⟨htest, ⟨hvalue, hblock⟩, hother, hotherBlock⟩ := h
    have hreadTest := test.readsBack htest
    have hreadValue := (value.readsBack hvalue).block hblock
    have hreadOther := (other.readsBack hother).block hotherBlock
    cases value with
    | block body value => exact hreadTest.branch hreadValue hvalue.2.2 hreadOther
    | _ => exact hblock.elim

theorem Condition.readsBack_of_areReadable {least : Nat} : (parts : List Condition) →
    Condition.AreReadable least parts → ∀ c ∈ parts, c.ReadsBack ∧ least ≤ c.binding
  | [], _ => by simp
  | part :: rest, h => by
    have hpart := part.readsBack h.1.1
    have hrest := Condition.readsBack_of_areReadable rest h.2
    intro c hc
    cases hc with
    | head => exact ⟨hpart, h.1.2⟩
    | tail _ hc => exact hrest c hc

theorem Statement.reads : (st : Statement) → st.IsReadable → StatementReads st
  | .mark, _ => statementReads_mark
  | .rollback, _ => statementReads_rollback
  | .ignore condition, h => .ignore (condition.readsBack h)
  | .loop body, h => .loop (.of_statements (Statement.reads_of_areReadable body h))
  | .breakIf condition, h => .breakIf (condition.readsBack h)

theorem Statement.reads_of_areReadable : (body : List Statement) →
    Statement.AreReadable body → ∀ st ∈ body, StatementReads st
  | [], _ => by simp
  | first :: rest, h => by
    have hfirst := first.reads h.1
    have hrest := Statement.reads_of_areReadable rest h.2
    intro st hst
    cases hst with
    | head => exact hfirst
    | tail _ hst => exact hrest st hst

end

end GrammarForge.Code
