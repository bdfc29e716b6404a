import GrammarForge.Proofs.Grammar.BytePositions
import GrammarForge.Proofs.Grammar.FileReading
import Mathlib

/-!
# Parsing by position

The parser as functions that call each other and share a position in a list of tokens. Groups are
open as long as the calls that read them. Nothing in the definitions says that the calls return,
that the loops get on or that the tokens they ask for exist: the loops may take a number of steps,
the calls for groups be nested as deep, and whatever goes on longer is cut off.
-/

namespace GrammarForge.Cursor

open Body Outcome

/-! ## The parser -/

/-- What an iteration of a loop comes to: another iteration, or the end of the loop. Both have what
has been collected, and the position behind the tokens that were taken. -/
inductive Turn (α : Type) where
  | again (collected : α) (pos : Nat)
  | leave (collected : α) (pos : Nat)

/-- The loop of these iterations, unless there are more of them than it may take. -/
def Turn.loop {α : Type} (turn : α → Nat → Outcome (Turn α)) : Nat → α → Nat → Outcome (α × Nat)
  | 0, _, _ => unfinished
  | steps + 1, collected, pos => do
    match ← turn collected pos with
    | .again collected pos => loop turn steps collected pos
    | .leave collected pos => pure (collected, pos)

/-- The text that a literal stands for. The quotes are cut off by position. -/
def unquote (literal : String) : Outcome String := do
  let body ← slice literal 1 (max (literal.utf8ByteSize - 1) 1)
  pure (String.ofList (Quoted.resolve body.toList))

/-- Whether an item of a sequence starts with a token of this kind. -/
def startsItem (kind : TokenKind) : Bool :=
  kind = .ident || kind = .quoted || kind = .leftParen || kind = .leftBracket

section Parser

variable (tokens : List Token) (length steps : Nat)

/-- Whether a token of this kind is at the position. -/
def isAt (kind : TokenKind) (pos : Nat) : Bool := tokens[pos]?.any (·.kind = kind)

/-- Take the token at the position, whatever it is. -/
def bump (expected : Expected) (pos : Nat) : Outcome (Token × Nat) :=
  match tokens[pos]? with
  | some t => pure (t, pos + 1)
  | none => fail (.unexpectedEnd length expected)

/-- Take a token of this kind. -/
def expect (kind : TokenKind) (expected : Expected) (pos : Nat) : Outcome (Token × Nat) := do
  let (t, pos) ← bump tokens length expected pos
  if t.kind = kind then pure (t, pos) else fail (.unexpectedToken t expected)

/-- A name and `::=`, with or without `private` in front. -/
def atRuleStart (pos : Nat) : Bool :=
  (isAt tokens .ident pos && isAt tokens .define (pos + 1)) ||
    (tokens[pos]?.any (·.text = "private") && isAt tokens .ident (pos + 1) &&
      isAt tokens .define (pos + 2))

/-- One iteration over the operators behind an item. -/
def operatorTurn (e : Expr) (pos : Nat) : Outcome (Turn Expr) :=
  match tokens[pos]?.bind fun t => repetition? t.kind with
  | some op => pure (.again (op e) (pos + 1))
  | none => pure (.leave e pos)

/-! ### Bodies -/

section Bodies

-- What reads the choice in a group.
variable (inner : Nat → Outcome (Expr × Nat))

/-- A group behind its opening brace. -/
def group (g : Group) (pos : Nat) : Outcome (Expr × Nat) := do
  let (e, pos) ← inner pos
  let (_, pos) ← expect tokens length g.closingKind (.closing g.closing) pos
  pure (g.wrap e, pos)

/-- A name, a literal, or a choice in parentheses or brackets. -/
def primary (pos : Nat) : Outcome (Expr × Nat) := do
  let (t, pos) ← bump tokens length .expression pos
  match t.kind with
  | .ident => pure (ofName t.text, pos)
  | .quoted => do
    let literal ← unquote t.text
    pure (.literal literal, pos)
  | .leftParen => group tokens length inner .paren pos
  | .leftBracket => group tokens length inner .bracket pos
  | _ => fail (.unexpectedToken t .expression)

/-- A primary expression and the operators behind it. -/
def item (pos : Nat) : Outcome (Expr × Nat) := do
  let (e, pos) ← primary tokens length inner pos
  Turn.loop (operatorTurn tokens) steps e pos

def sequenceTurn (items : List Expr) (pos : Nat) : Outcome (Turn (List Expr)) :=
  match tokens[pos]? with
  | none => pure (.leave items pos)
  | some t =>
    if atRuleStart tokens pos || !startsItem t.kind then pure (.leave items pos)
    else do
      let (e, pos) ← item tokens length steps inner pos
      pure (.again (items ++ [e]) pos)

/-- Items up to a token that starts none, or starts a rule. -/
def sequence (pos : Nat) : Outcome (Expr × Nat) := do
  let (items, pos) ← Turn.loop (sequenceTurn tokens length steps inner) steps [] pos
  pure (collapse .sequence items, pos)

def choiceTurn (alternatives : List Expr) (pos : Nat) : Outcome (Turn (List Expr)) :=
  if isAt tokens .pipe pos then do
    let (e, pos) ← sequence tokens length steps inner (pos + 1)
    pure (.again (alternatives ++ [e]) pos)
  else pure (.leave alternatives pos)

/-- Alternatives with bars between them. -/
def alternatives (pos : Nat) : Outcome (Expr × Nat) := do
  let (first, pos) ← sequence tokens length steps inner pos
  let (es, pos) ← Turn.loop (choiceTurn tokens length steps inner) steps [first] pos
  pure (collapse .choice es, pos)

end Bodies

/-- A choice, in which the calls for groups are nested as deep as it says. -/
def choice : Nat → Nat → Outcome (Expr × Nat)
  | 0, _ => unfinished
  | depth + 1, pos => alternatives tokens length steps (choice depth) pos

/-! ### Attributes, rules and files -/

def attributeValue (v : Token) : Outcome String :=
  match v.kind with
  | .quoted => unquote v.text
  | .ident => pure v.text
  | _ => fail (.unexpectedToken v .attributeValue)

/-- An attribute behind its name. -/
def setting (key : String) (attributes : Attributes) (pos : Nat) : Outcome (Turn Attributes) := do
  let (_, pos) ← expect tokens length .equals .attributeEquals pos
  let (v, pos) ← bump tokens length .attributeValue pos
  let value ← attributeValue v
  pure (.again (Attributes.insert key value attributes) pos)

def attributeTurn (attributes : Attributes) (pos : Nat) : Outcome (Turn Attributes) := do
  let (t, pos) ← bump tokens length .attributeName pos
  match t.kind with
  | .rightBrace => pure (.leave attributes pos)
  | .semicolon => pure (.again attributes pos)
  | .ident => setting tokens length t.text attributes pos
  | _ => fail (.unexpectedToken t .attributeName)

/-- An attribute block, from its opening brace on. -/
def attributeBlock (attributes : Attributes) (pos : Nat) : Outcome (Attributes × Nat) := do
  let (_, pos) ← expect tokens length .leftBrace .openingBrace pos
  Turn.loop (attributeTurn tokens length) steps attributes pos

/-- The token in front of the position, which must be there. -/
def tokenBefore (pos : Nat) : Outcome Token :=
  match pos with
  | 0 => throw .outOfBounds
  | pos + 1 => tokens[pos]?.elim (throw .outOfBounds) pure

/-- A rule from its name on, which starts at byte `start`. -/
def namedRule (factory : AstFactory) (start : Nat) (isPrivate : Bool) (pos : Nat) :
    Outcome (Rule × Nat) := do
  let (name, pos) ← expect tokens length .ident .ruleName pos
  let (_, pos) ← expect tokens length .define .define pos
  let (e, pos) ← choice tokens length steps steps pos
  let last ← tokenBefore tokens pos
  let rule := factory.makeRule name.text isPrivate e ⟨start, last.span.stop⟩
  pure (rule, if isAt tokens .semicolon pos then pos + 1 else pos)

def rule (factory : AstFactory) (pos : Nat) : Outcome (Rule × Nat) :=
  let start := tokens[pos]?.elim 0 (·.span.start)
  if tokens[pos]?.any (·.text = "private") && isAt tokens .ident (pos + 1) then
    namedRule tokens length steps factory start true (pos + 1)
  else namedRule tokens length steps factory start false pos

def fileTurn (factory : AstFactory) (parts : Attributes × List Rule) (pos : Nat) :
    Outcome (Turn (Attributes × List Rule)) :=
  match tokens[pos]? with
  | none => pure (.leave parts pos)
  | some t =>
    match t.kind with
    | .leftBrace => do
      let (attributes, pos) ← attributeBlock tokens length steps parts.1 pos
      pure (.again (attributes, parts.2) pos)
    | .semicolon => pure (.again parts (pos + 1))
    | _ => do
      let (r, pos) ← rule tokens length steps factory pos
      pure (.again (parts.1, parts.2 ++ [r]) pos)

def file (factory : AstFactory) (name : String) : Outcome Grammar := do
  let (parts, _) ← Turn.loop (fileTurn tokens length steps factory) steps ([], []) 0
  pure (factory.makeGrammar name parts.1 parts.2)

end Parser

/-! ## Loops -/

/-- What an iteration comes to, with one condition on going on and another on leaving the loop. -/
inductive Turn.Fits {α : Type} (again leave : α → Nat → Prop) : Turn α → Prop
  | again {collected : α} {pos : Nat} :
      again collected pos → Fits again leave (.again collected pos)
  | leave {collected : α} {pos : Nat} :
      leave collected pos → Fits again leave (.leave collected pos)

theorem Turn.Fits.mono {α : Type} {again leave again' leave' : α → Nat → Prop} {turn : Turn α}
    (h : turn.Fits again leave) (hagain : ∀ a pos, again a pos → again' a pos)
    (hleave : ∀ a pos, leave a pos → leave' a pos) : turn.Fits again' leave' := by
  cases h with
  | again h => exact .again (hagain _ _ h)
  | leave h => exact .leave (hleave _ _ h)

/-- A loop ends within its steps if every iteration moves the position on, by no more than `size` in
all. What every iteration keeps holds when the last one begins. -/
theorem Turn.loop_gives {α : Type} {turn : α → Nat → Outcome (Turn α)} {result : α × Nat → Prop}
    {error : GrammarError → Prop} (size : Nat) (inv : α → Nat → Prop)
    (hturn : ∀ a pos, pos ≤ size → inv a pos →
      Gives (Turn.Fits (fun a' pos' => pos < pos' ∧ pos' ≤ size ∧ inv a' pos')
        (fun a' pos' => result (a', pos'))) error (turn a pos))
    {steps : Nat} (hsteps : size < steps) {a : α} {pos : Nat} (hpos : pos ≤ size) (h : inv a pos) :
    Gives result error (Turn.loop turn steps a pos) := by
  -- Behind the position, there are steps for all that is left.
  have hleft : size < pos + steps := Nat.lt_add_left pos hsteps
  clear hsteps
  induction steps generalizing a pos with
  | zero => exact absurd hleft hpos.not_gt
  | succ steps ih =>
      rw [loop]
      refine (hturn a pos hpos h).bind (fun turn hfits => ?_) fun _ => id
      cases hfits with
      | again hagain =>
          obtain ⟨hlt, hle, hinv⟩ := hagain
          exact ih hle hinv (by omega)
      | leave hleave => exact .ends hleave

/-! ## Where reading stands -/

section Reading

variable (tokens : List Token) (length : Nat)

/-- The byte at which the tokens in front of a position end. -/
def stopBefore (pos : Nat) : Nat := Derived.lastStop 0 (tokens.take pos)

/-- Read on from a position, with these groups open. -/
def readAt (outer : Outer) (level : Level) (pos : Nat) : Except GrammarError Result :=
  read length (stopBefore tokens pos) outer level (tokens.drop pos)

/-- No token at the position goes on with the alternative that has these items. -/
def Final (items : List Expr) (pos : Nat) : Prop :=
  ∀ t, tokens[pos]? = some t → atRuleStart tokens pos = false →
    startsItem t.kind = false ∧ (repetition? t.kind = none ∨ items = [])

variable {tokens length} {pos : Nat} {t : Token} {outer : Outer} {level : Level}

theorem drop_at (h : tokens[pos]? = some t) : tokens.drop pos = t :: tokens.drop (pos + 1) := by
  obtain ⟨hlt, rfl⟩ := List.getElem?_eq_some_iff.1 h
  exact List.drop_eq_getElem_cons hlt

theorem drop_eq_nil_of_none (h : tokens[pos]? = none) : tokens.drop pos = [] :=
  List.drop_eq_nil_of_le (List.getElem?_eq_none_iff.1 h)

theorem stopBefore_succ (h : tokens[pos]? = some t) :
    stopBefore tokens (pos + 1) = t.span.stop := by
  rw [stopBefore, List.take_add_one, h, Derived.lastStop_append]
  rfl

theorem startsRule_drop (tokens : List Token) (pos : Nat) :
    startsRule (tokens.drop pos) = atRuleStart tokens pos := by
  have hat (k : Nat) : tokens[pos + k]? = (tokens.drop pos)[k]? := List.getElem?_drop.symm
  have hfirst : tokens[pos]? = (tokens.drop pos)[0]? := hat 0
  simp only [atRuleStart, isAt, hfirst, hat]
  rcases tokens.drop pos with _ | ⟨t, _ | ⟨n, _ | ⟨d, rest⟩⟩⟩ <;>
    simp [startsRule, Bool.and_assoc]

theorem not_atRuleStart (hwords : GrammarFile.WordsAreNames tokens) (h : tokens[pos]? = some t)
    (hkind : t.kind ≠ .ident) : atRuleStart tokens pos = false := by
  have htext : t.text ≠ "private" := fun htext => hkind (hwords t (List.mem_of_getElem? h) htext)
  simp [atRuleStart, isAt, h, hkind, htext]

section Steps

variable (h : tokens[pos]? = some t)
include h

theorem readAt_at : readAt tokens length outer level pos =
    read length (stopBefore tokens pos) outer level (t :: tokens.drop (pos + 1)) := by
  rw [readAt, drop_at h]

theorem read_behind : read length t.span.stop outer level (tokens.drop (pos + 1)) =
    readAt tokens length outer level (pos + 1) := by
  rw [readAt, stopBefore_succ h]

theorem startsRule_at : startsRule (t :: tokens.drop (pos + 1)) = atRuleStart tokens pos := by
  rw [← drop_at h, startsRule_drop]

theorem readAt_name (hstart : atRuleStart tokens pos = false) (hkind : t.kind = .ident) :
    readAt tokens length outer level pos =
      readAt tokens length outer (level.push (ofName t.text)) (pos + 1) := by
  rw [readAt_at h, read_name ((startsRule_at h).trans hstart) hkind, read_behind h]

theorem readAt_quoted (hstart : atRuleStart tokens pos = false) (hkind : t.kind = .quoted) :
    readAt tokens length outer level pos =
      readAt tokens length outer (level.push (.literal (Quoted.unquote t.text))) (pos + 1) := by
  rw [readAt_at h, read_quoted ((startsRule_at h).trans hstart) hkind, read_behind h]

theorem readAt_opening (g : Group) (hstart : atRuleStart tokens pos = false)
    (hkind : t.kind = g.openingKind) : readAt tokens length outer level pos =
      readAt tokens length ((g, level) :: outer) .empty (pos + 1) := by
  rw [readAt_at h, read_opening g ((startsRule_at h).trans hstart) hkind, read_behind h]

theorem readAt_pipe (hstart : atRuleStart tokens pos = false) (hkind : t.kind = .pipe) :
    readAt tokens length outer level pos = readAt tokens length outer level.next (pos + 1) := by
  rw [readAt_at h, read_pipe ((startsRule_at h).trans hstart) hkind, read_behind h]

theorem readAt_operator {op : Expr → Expr} {e : Expr} (hstart : atRuleStart tokens pos = false)
    (hop : repetition? t.kind = some op) : readAt tokens length outer (level.push e) pos =
      readAt tokens length outer (level.push (op e)) (pos + 1) := by
  rw [readAt_at h, read_repetition ((startsRule_at h).trans hstart) hop, read_behind h]

end Steps

section Final

variable {stop : Nat} {rest : List Token} (hstart : startsRule (t :: rest) = false)
  (hitem : startsItem t.kind = false) (hbar : t.kind ≠ .pipe)
  (hop : repetition? t.kind = none ∨ level.items = [])
include hstart hitem hbar hop

theorem read_final : Body.read length stop [] level (t :: rest) =
    .ok ⟨level.expr, stop, t :: rest⟩ := by
  cases hkind : t.kind <;> simp_all [Body.read, startsItem, repetition?]

theorem read_final_in_group (length stop : Nat) (outer : Outer) (g : Group) (enclosing : Level) :
    Body.read length stop ((g, enclosing) :: outer) level (t :: rest) =
      if t.kind = g.closingKind then
        Body.read length t.span.stop outer (enclosing.push (g.wrap level.expr)) rest
      else .error (.unexpectedToken t (.closing g.closing)) := by
  cases hkind : t.kind <;> simp_all [Body.read, startsItem, repetition?]

end Final

/-- Outside of all groups, the body ends where no token goes on with it. -/
theorem readAt_end (hfinal : Final tokens level.items pos) (hbar : isAt tokens .pipe pos = false) :
    readAt tokens length [] level pos =
      .ok ⟨level.expr, stopBefore tokens pos, tokens.drop pos⟩ := by
  cases h : tokens[pos]? with
  | none => rw [readAt, drop_eq_nil_of_none h, Body.read, finish]
  | some t =>
      rw [readAt_at h, drop_at h]
      cases hstart : atRuleStart tokens pos with
      | true => rw [Body.read, if_pos ((startsRule_at h).trans hstart), finish]
      | false =>
          obtain ⟨hitem, hop⟩ := hfinal t h hstart
          have hbar : t.kind ≠ .pipe := by simpa [isAt, h] using hbar
          exact read_final ((startsRule_at h).trans hstart) hitem hbar hop

/-- In a group, a body that no token goes on with needs the closing brace. -/
theorem expect_closing (hwords : GrammarFile.WordsAreNames tokens) (g : Group)
    (hfinal : Final tokens level.items pos) (hbar : isAt tokens .pipe pos = false) :
    Gives (fun r => r.2 = pos + 1 ∧ pos < tokens.length ∧ ∀ enclosing outer,
        readAt tokens length ((g, enclosing) :: outer) level pos =
          readAt tokens length outer (enclosing.push (g.wrap level.expr)) (pos + 1))
      (fun e => ∀ enclosing outer,
        readAt tokens length ((g, enclosing) :: outer) level pos = .error e)
      (expect tokens length g.closingKind (.closing g.closing) pos) := by
  rw [expect, bump]
  cases h : tokens[pos]? with
  | none =>
      refine .fails fun enclosing outer => ?_
      rw [readAt, drop_eq_nil_of_none h, Body.read, finish]
  | some t =>
      have hlt : pos < tokens.length := (List.getElem?_eq_some_iff.1 h).1
      rw [pure_bind]
      cases hstart : atRuleStart tokens pos with
      | true =>
          have hkind : t.kind ≠ g.closingKind := by
            intro hkind
            have hident : t.kind ≠ .ident := by rw [hkind]; cases g <;> decide
            rw [not_atRuleStart hwords h hident] at hstart
            cases hstart
          simp only [hkind, if_false]
          refine .fails fun enclosing outer => ?_
          rw [readAt_at h, Body.read, if_pos ((startsRule_at h).trans hstart), finish]
      | false =>
          obtain ⟨hitem, hop⟩ := hfinal t h hstart
          have hbar : t.kind ≠ .pipe := by simpa [isAt, h] using hbar
          have hread := read_final_in_group ((startsRule_at h).trans hstart) hitem hbar hop length
            (stopBefore tokens pos)
          by_cases hkind : t.kind = g.closingKind
          · simp only [hkind, if_true]
            refine .ends ⟨rfl, hlt, fun enclosing outer => ?_⟩
            rw [readAt_at h, hread, if_pos hkind, read_behind h]
          · simp only [hkind, if_false]
            refine .fails fun enclosing outer => ?_
            rw [readAt_at h, hread, if_neg hkind]

end Reading

end GrammarForge.Cursor
