import GrammarForge.Proofs.Grammar.Descent
import Mathlib

/-!
# Calls read what the stack of groups reads

A call for a part of a body returns with a position, and reading comes to the same position with
that part on its level, whatever groups are open around it. What a call has returned is thus on the
stack of `Body.read`, and where a call fails, reading fails with the same error.
-/

namespace GrammarForge.Cursor

open Body Outcome

/-- The literal is cut at its quotes, which are between characters. -/
theorem unquote_eq {t : Token} (h : t.WellSpelled) (hkind : t.kind = .quoted) :
    unquote t.text = pure (Quoted.unquote t.text) := by
  have hshape := (t.kind.spells_iff_shape _).1 h
  rw [hkind] at hshape
  obtain ⟨quote, inner, hquote, -, htext⟩ := hshape
  have hone : byteLength [quote] = 1 := by rcases hquote with rfl | rfl <;> decide
  have hsplit : t.text.toList = [quote] ++ (inner ++ [quote]) := htext
  have hsize : t.text.utf8ByteSize = 1 + (byteLength inner + 1) := by
    rw [size_of_toList hsplit, byteLength_append, hone]
  have hstop : max (t.text.utf8ByteSize - 1) 1 = 1 + byteLength inner := by omega
  have hslice := slice_of_toList hsplit
  rw [hone] at hslice
  rw [unquote, hstop, hslice, pure_bind, Quoted.unquote, htext]
  simp

section Calls

variable (tokens : List Token) (length : Nat)

/-- Whatever groups are open, reading comes from the one level and position to the other. -/
def Moves (level : Level) (pos : Nat) (level' : Level) (pos' : Nat) : Prop :=
  ∀ outer, readAt tokens length outer level pos = readAt tokens length outer level' pos'

/-- Whatever groups are open, reading fails. -/
def Breaks (level : Level) (pos : Nat) (e : GrammarError) : Prop :=
  ∀ outer, readAt tokens length outer level pos = .error e

/-- No operator is at the position. -/
def NoOperator (pos : Nat) : Prop := ∀ t, tokens[pos]? = some t → repetition? t.kind = none

/-- What the call for an item comes to. -/
def ItemGives (pos : Nat) (o : Outcome (Expr × Nat)) : Prop :=
  Gives (fun r => pos < r.2 ∧ r.2 ≤ tokens.length ∧
      ∀ level, Moves tokens length level pos (level.push r.1) r.2)
    (fun e => ∀ level, Breaks tokens length level pos e) o

/-- What the call for a choice comes to. -/
def ChoiceGives (pos : Nat) (o : Outcome (Expr × Nat)) : Prop :=
  Gives (fun r => pos ≤ r.2 ∧ r.2 ≤ tokens.length ∧ ∃ level : Level, level.expr = r.1 ∧
      Final tokens level.items r.2 ∧ isAt tokens .pipe r.2 = false ∧
      Moves tokens length .empty pos level r.2)
    (Breaks tokens length .empty pos) o

variable {tokens length} {pos pos' : Nat} {level level' : Level} {t : Token}

theorem Moves.refl (tokens : List Token) (length : Nat) (level : Level) (pos : Nat) :
    Moves tokens length level pos level pos := fun _ => rfl

theorem Moves.trans {level'' : Level} {pos'' : Nat} (h : Moves tokens length level pos level' pos')
    (h' : Moves tokens length level' pos' level'' pos'') :
    Moves tokens length level pos level'' pos'' := fun outer => (h outer).trans (h' outer)

theorem Moves.breaks {e : GrammarError} (h : Moves tokens length level pos level' pos')
    (h' : Breaks tokens length level' pos' e) : Breaks tokens length level pos e :=
  fun outer => (h outer).trans (h' outer)

theorem bump_eq (h : tokens[pos]? = some t) (expected : Expected) :
    bump tokens length expected pos = pure (t, pos + 1) := by
  rw [bump, h]

theorem kind_of_isAt {kind : TokenKind} (h : isAt tokens kind pos = true) :
    ∃ t, tokens[pos]? = some t ∧ t.kind = kind := by
  simpa [isAt, Option.any_eq_true] using h

section Words

variable (length) (hwords : GrammarFile.WordsAreNames tokens)
include hwords

/-! ### Operators -/

theorem operatorTurn_gives (e : Expr) :
    Gives (Turn.Fits
        (fun e' pos' => pos < pos' ∧ pos' ≤ tokens.length ∧
          ∀ level : Level, Moves tokens length (level.push e) pos (level.push e') pos')
        (fun e' pos' => e' = e ∧ pos' = pos ∧ NoOperator tokens pos))
      (fun _ => False) (operatorTurn tokens e pos) := by
  rw [operatorTurn]
  cases h : tokens[pos]? with
  | none => exact .ends (.leave ⟨rfl, rfl, fun t ht => by rw [h] at ht; cases ht⟩)
  | some t =>
      rw [Option.bind_some]
      cases hop : repetition? t.kind with
      | none =>
          refine .ends (.leave ⟨rfl, rfl, fun u hu => ?_⟩)
          rw [h] at hu
          cases hu
          exact hop
      | some op =>
          have hident : t.kind ≠ .ident := by
            intro hident
            rw [hident] at hop
            cases hop
          have hstart := not_atRuleStart hwords h hident
          refine .ends (.again ⟨Nat.lt_succ_self pos, (List.getElem?_eq_some_iff.1 h).1, ?_⟩)
          exact fun level outer => readAt_operator h hstart hop

theorem operators_give {steps : Nat} (hsteps : tokens.length < steps) (e : Expr)
    (hpos : pos ≤ tokens.length) :
    Gives (fun r => pos ≤ r.2 ∧ r.2 ≤ tokens.length ∧ NoOperator tokens r.2 ∧
        ∀ level : Level, Moves tokens length (level.push e) pos (level.push r.1) r.2)
      (fun _ => False) (Turn.loop (operatorTurn tokens) steps e pos) := by
  refine Turn.loop_gives tokens.length (fun e' pos' => pos ≤ pos' ∧ ∀ level : Level,
    Moves tokens length (level.push e) pos (level.push e') pos') (fun e' pos' hin h => ?_) hsteps
    hpos ⟨le_rfl, fun level => .refl _ _ _ _⟩
  obtain ⟨hle, hmoves⟩ := h
  refine (operatorTurn_gives length hwords e').mono (fun turn h => h.mono ?_ ?_) fun _ => id
  · rintro e'' pos'' ⟨hlt, hin', hmoves'⟩
    exact ⟨hlt, hin', hle.trans hlt.le, fun level => (hmoves level).trans (hmoves' level)⟩
  · rintro e'' pos'' ⟨rfl, rfl, hop⟩
    exact ⟨hle, hin, hop, hmoves⟩

end Words

/-! ### Items -/

theorem wordsAreNames_of_wellSpelled (hspelled : ∀ t ∈ tokens, t.WellSpelled) :
    GrammarFile.WordsAreNames tokens := by
  intro t ht htext
  refine (hspelled t ht).kind_eq_ident ?_
  rw [htext]
  exact ⟨'p', "rivate".toList, rfl, by decide, List.all_eq_true.1 (by decide)⟩

section Spelled

variable (length) (hspelled : ∀ t ∈ tokens, t.WellSpelled) {inner : Nat → Outcome (Expr × Nat)}
include hspelled

theorem group_gives (g : Group) (h : tokens[pos]? = some t)
    (hstart : atRuleStart tokens pos = false) (hkind : t.kind = g.openingKind)
    (hinner : ChoiceGives tokens length (pos + 1) (inner (pos + 1))) :
    ItemGives tokens length pos (group tokens length inner g (pos + 1)) := by
  rw [group]
  refine hinner.bind (fun r hr => ?_) fun e he level => ?_
  · obtain ⟨hle, hin, level', hexpr, hfinal, hbar, hmoves⟩ := hr
    have hopen (outer : Outer) (level : Level) : readAt tokens length outer level pos =
        readAt tokens length ((g, level) :: outer) level' r.2 :=
      (readAt_opening h g hstart hkind).trans (hmoves ((g, level) :: outer))
    have hwords := wordsAreNames_of_wellSpelled hspelled
    refine (expect_closing hwords g hfinal hbar).bind (fun q hq => ?_) fun e he level outer => ?_
    · obtain ⟨hq, hlt, hclosed⟩ := hq
      refine .ends ⟨by omega, by omega, fun level outer => ?_⟩
      rw [hopen, hclosed, hexpr, hq]
    · exact (hopen outer level).trans (he level outer)
  · exact fun outer => (readAt_opening h g hstart hkind).trans (he ((g, level) :: outer))

theorem primary_gives (h : tokens[pos]? = some t) (hstart : atRuleStart tokens pos = false)
    (hitem : startsItem t.kind = true)
    (hinner : ChoiceGives tokens length (pos + 1) (inner (pos + 1))) :
    ItemGives tokens length pos (primary tokens length inner pos) := by
  have hlt : pos < tokens.length := (List.getElem?_eq_some_iff.1 h).1
  rw [primary, bump_eq h, pure_bind]
  dsimp only
  cases hkind : t.kind with
  | ident =>
      exact .ends ⟨Nat.lt_succ_self pos, hlt, fun level outer => readAt_name h hstart hkind⟩
  | quoted =>
      have hliteral := unquote_eq (hspelled t (List.mem_of_getElem? h)) hkind
      simp only [hliteral, pure_bind]
      exact .ends ⟨Nat.lt_succ_self pos, hlt, fun level outer => readAt_quoted h hstart hkind⟩
  | leftParen => exact group_gives length hspelled .paren h hstart hkind hinner
  | leftBracket => exact group_gives length hspelled .bracket h hstart hkind hinner
  | _ => simp [startsItem, hkind] at hitem

section Steps

variable {steps : Nat} (hsteps : tokens.length < steps)
include hsteps

theorem item_gives (h : tokens[pos]? = some t) (hstart : atRuleStart tokens pos = false)
    (hitem : startsItem t.kind = true)
    (hinner : ChoiceGives tokens length (pos + 1) (inner (pos + 1))) :
    Gives (fun r => pos < r.2 ∧ r.2 ≤ tokens.length ∧ NoOperator tokens r.2 ∧
        ∀ level, Moves tokens length level pos (level.push r.1) r.2)
      (fun e => ∀ level, Breaks tokens length level pos e)
      (item tokens length steps inner pos) := by
  rw [item]
  refine (primary_gives length hspelled h hstart hitem hinner).bind (fun r hr => ?_) fun _ => id
  obtain ⟨hlt, hin, hmoves⟩ := hr
  have hwords := wordsAreNames_of_wellSpelled hspelled
  refine (operators_give length hwords hsteps r.1 hin).mono (fun q hq => ?_) fun _ => False.elim
  obtain ⟨hle, hin', hop, hmoves'⟩ := hq
  exact ⟨hlt.trans_le hle, hin', hop, fun level => (hmoves level).trans (hmoves' level)⟩

/-! ### Sequences -/

theorem sequenceTurn_gives (items : List Expr)
    (hinner : ∀ q, pos < q → q ≤ tokens.length → ChoiceGives tokens length q (inner q)) :
    Gives (Turn.Fits
        (fun items' pos' => pos < pos' ∧ pos' ≤ tokens.length ∧ NoOperator tokens pos' ∧
          ∀ before, Moves tokens length ⟨before, items.reverse⟩ pos ⟨before, items'.reverse⟩ pos')
        (fun items' pos' => items' = items ∧ pos' = pos ∧ ∀ t, tokens[pos]? = some t →
          atRuleStart tokens pos = false → startsItem t.kind = false))
      (fun e => ∀ before, Breaks tokens length ⟨before, items.reverse⟩ pos e)
      (sequenceTurn tokens length steps inner items pos) := by
  rw [sequenceTurn]
  cases h : tokens[pos]? with
  | none => exact .ends (.leave ⟨rfl, rfl, fun t ht => by cases ht⟩)
  | some t =>
      dsimp only
      split
      · rename_i hstop
        refine .ends (.leave ⟨rfl, rfl, fun u hu hstart => ?_⟩)
        cases hu
        rwa [hstart, Bool.false_or, Bool.not_eq_true'] at hstop
      · rename_i hgo
        simp only [Bool.or_eq_true, not_or, Bool.not_eq_true, Bool.not_eq_false'] at hgo
        have hitem := item_gives length hspelled hsteps h hgo.1 hgo.2
          (hinner (pos + 1) (Nat.lt_succ_self pos) (List.getElem?_eq_some_iff.1 h).1)
        refine hitem.bind (fun r hr => ?_) fun e he before => he _
        obtain ⟨hlt, hin, hop, hmoves⟩ := hr
        refine .ends (.again ⟨hlt, hin, hop, fun before => ?_⟩)
        rw [List.reverse_concat]
        exact hmoves ⟨before, items.reverse⟩

/-- What is left behind the items of a sequence goes on with none of them. -/
theorem sequence_gives (hpos : pos ≤ tokens.length)
    (hinner : ∀ q, pos < q → q ≤ tokens.length → ChoiceGives tokens length q (inner q)) :
    Gives (fun r => pos ≤ r.2 ∧ r.2 ≤ tokens.length ∧ ∃ items,
        collapse .sequence items = r.1 ∧ Final tokens items.reverse r.2 ∧
        ∀ before, Moves tokens length ⟨before, []⟩ pos ⟨before, items.reverse⟩ r.2)
      (fun e => ∀ before, Breaks tokens length ⟨before, []⟩ pos e)
      (sequence tokens length steps inner pos) := by
  have hloop : Gives (fun r => pos ≤ r.2 ∧ r.2 ≤ tokens.length ∧ Final tokens r.1.reverse r.2 ∧
        ∀ before, Moves tokens length ⟨before, []⟩ pos ⟨before, r.1.reverse⟩ r.2)
      (fun e => ∀ before, Breaks tokens length ⟨before, []⟩ pos e)
      (Turn.loop (sequenceTurn tokens length steps inner) steps [] pos) := by
    refine Turn.loop_gives tokens.length (fun items pos' => pos ≤ pos' ∧
      (NoOperator tokens pos' ∨ items = []) ∧
      ∀ before, Moves tokens length ⟨before, []⟩ pos ⟨before, items.reverse⟩ pos')
      (fun items pos' hin h => ?_) hsteps hpos ⟨le_rfl, .inr rfl, fun before => .refl _ _ _ _⟩
    obtain ⟨hle, hop, hmoves⟩ := h
    have hturn :=
      sequenceTurn_gives length hspelled hsteps items fun q hq => hinner q (hle.trans_lt hq)
    refine hturn.mono (fun turn h => h.mono ?_ ?_) fun e he before =>
      (hmoves before).breaks (he before)
    · rintro items' pos'' ⟨hlt, hin', hop', hmoves'⟩
      exact ⟨hlt, hin', hle.trans hlt.le, .inl hop',
        fun before => (hmoves before).trans (hmoves' before)⟩
    · rintro items' pos'' ⟨rfl, rfl, hitem⟩
      refine ⟨hle, hin, fun t ht hstart => ⟨hitem t ht hstart, ?_⟩, hmoves⟩
      exact hop.imp (fun hop => hop t ht) fun hnil => by rw [hnil, List.reverse_nil]
  rw [sequence]
  refine hloop.bind (fun r hr => ?_) fun _ => id
  obtain ⟨hle, hin, hfinal, hmoves⟩ := hr
  exact .ends ⟨hle, hin, r.1, rfl, hfinal, hmoves⟩

/-! ### Choices -/

/-- The alternatives of a level, with the one being read. -/
def alternativesOf (level : Level) : List Expr := (level.current :: level.alternatives).reverse

theorem choiceTurn_gives (level : Level)
    (hinner : ∀ q, pos < q → q ≤ tokens.length → ChoiceGives tokens length q (inner q)) :
    Gives (Turn.Fits
        (fun es pos' => pos < pos' ∧ pos' ≤ tokens.length ∧ ∃ level' : Level,
          es = alternativesOf level' ∧ Final tokens level'.items pos' ∧
          Moves tokens length level pos level' pos')
        (fun es pos' => es = alternativesOf level ∧ pos' = pos ∧ isAt tokens .pipe pos = false))
      (Breaks tokens length level pos)
      (choiceTurn tokens length steps inner (alternativesOf level) pos) := by
  rw [choiceTurn]
  cases hbar : isAt tokens .pipe pos with
  | false => exact .ends (.leave ⟨rfl, rfl, rfl⟩)
  | true =>
      obtain ⟨t, h, hkind⟩ := kind_of_isAt hbar
      have hstart : atRuleStart tokens pos = false :=
        not_atRuleStart (wordsAreNames_of_wellSpelled hspelled) h (by rw [hkind]; decide)
      have hnext : Moves tokens length level pos level.next (pos + 1) :=
        fun outer => readAt_pipe h hstart hkind
      have hlt : pos < tokens.length := (List.getElem?_eq_some_iff.1 h).1
      have hsequence :=
        sequence_gives length hspelled hsteps hlt fun q hq => hinner q (by omega)
      refine hsequence.bind (fun r hr => ?_) fun e he => hnext.breaks (he _)
      obtain ⟨hle, hin, items, hitems, hfinal, hmoves⟩ := hr
      refine .ends (.again ⟨hle, hin, ⟨level.current :: level.alternatives, items.reverse⟩, ?_,
        hfinal, hnext.trans (hmoves _)⟩)
      simp [alternativesOf, Level.current, hitems]

theorem choiceLoop_gives (level : Level) (hfinal : Final tokens level.items pos)
    (hpos : pos ≤ tokens.length)
    (hinner : ∀ q, pos < q → q ≤ tokens.length → ChoiceGives tokens length q (inner q)) :
    Gives (fun r => pos ≤ r.2 ∧ r.2 ≤ tokens.length ∧ ∃ level' : Level,
        r.1 = alternativesOf level' ∧ Final tokens level'.items r.2 ∧
        isAt tokens .pipe r.2 = false ∧ Moves tokens length level pos level' r.2)
      (Breaks tokens length level pos)
      (Turn.loop (choiceTurn tokens length steps inner) steps (alternativesOf level) pos) := by
  refine Turn.loop_gives tokens.length (fun es pos' => pos ≤ pos' ∧ ∃ level' : Level,
    es = alternativesOf level' ∧ Final tokens level'.items pos' ∧
    Moves tokens length level pos level' pos')
    ?_ hsteps hpos ⟨le_rfl, level, rfl, hfinal, .refl _ _ _ _⟩
  rintro _ pos' hin ⟨hle, level', rfl, hfinal', hmoves⟩
  have hturn :=
    choiceTurn_gives length hspelled hsteps level' fun q hq => hinner q (hle.trans_lt hq)
  refine hturn.mono (fun turn h => h.mono ?_ ?_) fun e he => hmoves.breaks he
  · rintro _ pos'' ⟨hlt, hin', level'', rfl, hfinal'', hmoves'⟩
    exact ⟨hlt, hin', hle.trans hlt.le, level'', rfl, hfinal'', hmoves.trans hmoves'⟩
  · rintro _ pos'' ⟨rfl, rfl, hbar⟩
    exact ⟨hle, hin, level', rfl, hfinal', hbar, hmoves⟩

theorem alternatives_give (hpos : pos ≤ tokens.length)
    (hinner : ∀ q, pos < q → q ≤ tokens.length → ChoiceGives tokens length q (inner q)) :
    ChoiceGives tokens length pos (alternatives tokens length steps inner pos) := by
  rw [alternatives]
  refine (sequence_gives length hspelled hsteps hpos hinner).bind (fun r hr => ?_)
    fun e he => he []
  obtain ⟨hle, hin, items, hitems, hfinal, hmoves⟩ := hr
  have hfirst : [r.1] = alternativesOf ⟨[], items.reverse⟩ := by
    simp [alternativesOf, Level.current, hitems]
  have hloop := choiceLoop_gives length hspelled hsteps ⟨[], items.reverse⟩ hfinal hin
    fun q hq => hinner q (hle.trans_lt hq)
  dsimp only
  rw [hfirst]
  refine hloop.bind (fun q hq => ?_) fun e he => (hmoves []).breaks he
  obtain ⟨hle', hin', level, hlevel, hfinal', hbar, hmoves'⟩ := hq
  refine .ends ⟨hle.trans hle', hin', level, ?_, hfinal', hbar, (hmoves []).trans hmoves'⟩
  rw [hlevel]
  rfl

/-- The call for a choice returns, and what it leaves behind is what reading has come to. The groups
in it are not nested deeper than there are tokens. -/
theorem choice_gives {depth : Nat} (hdepth : tokens.length < pos + depth)
    (hpos : pos ≤ tokens.length) :
    ChoiceGives tokens length pos (choice tokens length steps depth pos) := by
  induction depth generalizing pos with
  | zero => exact absurd hdepth hpos.not_gt
  | succ depth ih =>
      exact alternatives_give length hspelled hsteps hpos fun q hq hin => ih (by omega) hin

end Steps

end Spelled

end Calls

end GrammarForge.Cursor
