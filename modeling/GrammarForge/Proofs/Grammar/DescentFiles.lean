import GrammarForge.Proofs.Grammar.DescentBodies
import Mathlib

/-!
# Attributes, rules and files by position

The loops over an attribute block and over a file take their tokens from a position on, and what
they collect is what the readers of lists return. The same goes for a rule, whose body is a call.
-/

namespace GrammarForge.Cursor

open Body Outcome GrammarFile

variable {tokens : List Token} (length : Nat) {pos : Nat} {t : Token}

theorem bump_none (h : tokens[pos]? = none) (expected : Expected) :
    bump tokens length expected pos = fail (.unexpectedEnd length expected) := by
  rw [bump, h]

theorem expect_eq (h : tokens[pos]? = some t) (kind : TokenKind) (expected : Expected) :
    expect tokens length kind expected pos =
      if t.kind = kind then pure (t, pos + 1) else fail (.unexpectedToken t expected) := by
  rw [expect, bump_eq h]
  rfl

theorem expect_none (h : tokens[pos]? = none) (kind : TokenKind) (expected : Expected) :
    expect tokens length kind expected pos = fail (.unexpectedEnd length expected) := by
  rw [expect, bump_none length h]
  rfl

/-! ## Attributes -/

/-- The settings with these pairs as well, taken in order. -/
def insertAll (attributes : Attributes) (pairs : List (String × String)) : Attributes :=
  pairs.foldl (fun attributes pair => Attributes.insert pair.1 pair.2 attributes) attributes

theorem insertAll_append (attributes : Attributes) (pairs more : List (String × String)) :
    insertAll attributes (pairs ++ more) = insertAll (insertAll attributes pairs) more :=
  List.foldl_append ..

theorem attributeValue_eq {v : Token} (h : v.WellSpelled) :
    attributeValue v = Outcome.of (GrammarFile.attributeValue v) := by
  cases hkind : v.kind <;>
    simp [attributeValue, GrammarFile.attributeValue, hkind, unquote_eq h, Outcome.of]

/-- From `pos` on, these pairs are read up to the position `pos'` in the block. -/
def ReadsPairs (tokens : List Token) (length pos : Nat) (pairs : List (String × String))
    (pos' : Nat) : Prop :=
  readAttributes length (tokens.drop pos) =
    (readAttributes length (tokens.drop pos')).map fun r => (pairs ++ r.1, r.2)

theorem ReadsPairs.refl (tokens : List Token) (length pos : Nat) :
    ReadsPairs tokens length pos [] pos := by
  rw [ReadsPairs]
  cases readAttributes length (tokens.drop pos) <;> rfl

theorem ReadsPairs.trans {pairs more : List (String × String)} {pos' pos'' : Nat}
    (h : ReadsPairs tokens length pos pairs pos') (h' : ReadsPairs tokens length pos' more pos'') :
    ReadsPairs tokens length pos (pairs ++ more) pos'' := by
  rw [ReadsPairs, h, h']
  cases readAttributes length (tokens.drop pos'') with
  | error e => rfl
  | ok r => simp [Except.map]

section Attributes

variable (hspelled : ∀ t ∈ tokens, t.WellSpelled)
include hspelled

theorem setting_gives (attributes : Attributes) (h : tokens[pos]? = some t)
    (hkind : t.kind = .ident) :
    Gives (Turn.Fits
        (fun a pos' => pos < pos' ∧ pos' ≤ tokens.length ∧ ∃ pairs,
          a = insertAll attributes pairs ∧ ReadsPairs tokens length pos pairs pos')
        (fun _ _ => False))
      (fun e => readAttributes length (tokens.drop pos) = .error e)
      (setting tokens length t.text attributes (pos + 1)) := by
  rw [setting]
  cases heq : tokens[pos + 1]? with
  | none =>
      rw [expect_none length heq]
      refine .fails ?_
      rw [drop_at h, drop_eq_nil_of_none heq, readAttributes.eq_def]
      simp only [hkind]
  | some eq =>
      rw [expect_eq length heq]
      by_cases hequals : eq.kind = .equals
      · rw [if_pos hequals, pure_bind]
        dsimp only
        cases hv : tokens[pos + 2]? with
        | none =>
            rw [bump_none length hv]
            refine .fails ?_
            rw [drop_at h, drop_at heq, drop_eq_nil_of_none hv, readAttributes.eq_def]
            simp only [hkind, hequals, ne_eq, not_true_eq_false, if_false]
        | some v =>
            have hlt : pos + 2 < tokens.length := (List.getElem?_eq_some_iff.1 hv).1
            rw [bump_eq hv, pure_bind]
            dsimp only
            rw [attributeValue_eq (hspelled v (List.mem_of_getElem? hv))]
            cases hvalue : GrammarFile.attributeValue v with
            | error e =>
                refine .fails ?_
                rw [drop_at h, drop_at heq, drop_at hv, readAttributes.eq_def]
                simp only [hkind, hequals, ne_eq, not_true_eq_false, if_false, hvalue]
            | ok value =>
                refine .ends (.again ⟨by omega, hlt, [(t.text, value)], rfl, ?_⟩)
                rw [ReadsPairs, drop_at h, drop_at heq, drop_at hv, readAttributes.eq_def]
                simp only [hkind, hequals, ne_eq, not_true_eq_false, if_false, hvalue]
                rfl
      · rw [if_neg hequals]
        refine .fails ?_
        rw [drop_at h, drop_at heq, readAttributes.eq_def]
        simp only [hkind, hequals, ne_eq, not_false_eq_true, if_true]

theorem attributeTurn_gives (attributes : Attributes) :
    Gives (Turn.Fits
        (fun a pos' => pos < pos' ∧ pos' ≤ tokens.length ∧ ∃ pairs,
          a = insertAll attributes pairs ∧ ReadsPairs tokens length pos pairs pos')
        (fun a pos' => a = attributes ∧ pos < pos' ∧ pos' ≤ tokens.length ∧
          readAttributes length (tokens.drop pos) = .ok ([], tokens.drop pos')))
      (fun e => readAttributes length (tokens.drop pos) = .error e)
      (attributeTurn tokens length attributes pos) := by
  rw [attributeTurn]
  cases h : tokens[pos]? with
  | none =>
      rw [bump_none length h]
      refine .fails ?_
      rw [drop_eq_nil_of_none h, readAttributes]
  | some t =>
      have hlt : pos < tokens.length := (List.getElem?_eq_some_iff.1 h).1
      rw [bump_eq h, pure_bind]
      dsimp only
      cases hkind : t.kind with
      | rightBrace =>
          refine .ends (.leave ⟨rfl, Nat.lt_succ_self pos, hlt, ?_⟩)
          rw [drop_at h, readAttributes.eq_def]
          simp only [hkind]
      | semicolon =>
          refine .ends (.again ⟨Nat.lt_succ_self pos, hlt, [], rfl, ?_⟩)
          have hskip : readAttributes length (tokens.drop pos) =
              readAttributes length (tokens.drop (pos + 1)) := by
            rw [drop_at h, readAttributes.eq_def]
            simp only [hkind]
          rw [ReadsPairs, hskip]
          exact ReadsPairs.refl tokens length (pos + 1)
      | ident =>
          exact (setting_gives length hspelled attributes h hkind).mono
            (fun turn h => h.mono (fun _ _ => id) fun _ _ => False.elim) fun _ => id
      | _ =>
          refine .fails ?_
          rw [drop_at h, readAttributes.eq_def]
          simp only [hkind]

theorem attributeBlock_gives {steps : Nat} (hsteps : tokens.length < steps)
    (attributes : Attributes) (h : tokens[pos]? = some t) (hkind : t.kind = .leftBrace) :
    Gives (fun r => pos < r.2 ∧ r.2 ≤ tokens.length ∧ ∃ pairs,
        r.1 = insertAll attributes pairs ∧
        readAttributes length (tokens.drop (pos + 1)) = .ok (pairs, tokens.drop r.2))
      (fun e => readAttributes length (tokens.drop (pos + 1)) = .error e)
      (attributeBlock tokens length steps attributes pos) := by
  have hlt : pos < tokens.length := (List.getElem?_eq_some_iff.1 h).1
  rw [attributeBlock, expect_eq length h, if_pos hkind, pure_bind]
  refine Turn.loop_gives tokens.length (fun a pos' => pos < pos' ∧
    ∃ pairs, a = insertAll attributes pairs ∧ ReadsPairs tokens length (pos + 1) pairs pos')
    ?_ hsteps hlt ⟨Nat.lt_succ_self pos, [], rfl, .refl ..⟩
  rintro _ pos' hin ⟨hle, pairs, rfl, hread⟩
  refine (attributeTurn_gives length hspelled _).mono (fun turn h => h.mono ?_ ?_) ?_
  · rintro _ pos'' ⟨hlt, hin', more, rfl, hread'⟩
    refine ⟨hlt, hin', hle.trans hlt, pairs ++ more, (insertAll_append ..).symm,
      ReadsPairs.trans length hread hread'⟩
  · rintro _ pos'' ⟨rfl, hlt, hin', hend⟩
    refine ⟨hle.trans hlt, hin', pairs, rfl, ?_⟩
    rw [ReadsPairs, hend] at hread
    rw [hread, Except.map, List.append_nil]
  · intro e he
    rw [ReadsPairs, he] at hread
    exact hread

end Attributes

/-! ## Rules -/

theorem tokenBefore_eq (hpos : 0 < pos) (hin : pos ≤ tokens.length) :
    ∃ t, tokenBefore tokens pos = pure t ∧ stopBefore tokens pos = t.span.stop := by
  obtain ⟨pos, rfl⟩ := Nat.exists_eq_succ_of_ne_zero hpos.ne'
  have hlast : tokens[pos]? = some tokens[pos] := List.getElem?_eq_getElem hin
  exact ⟨tokens[pos], by rw [tokenBefore, hlast]; rfl, stopBefore_succ hlast⟩

theorem dropSeparator_drop (tokens : List Token) (pos : Nat) :
    dropSeparator (tokens.drop pos) =
      tokens.drop (if isAt tokens .semicolon pos then pos + 1 else pos) := by
  cases h : tokens[pos]? with
  | none => simp [isAt, h, drop_eq_nil_of_none h, dropSeparator]
  | some t =>
      by_cases hkind : t.kind = .semicolon <;> simp [isAt, h, drop_at h, dropSeparator, hkind]

theorem isModifier_drop (h : tokens[pos]? = some t) : isModifier t (tokens.drop (pos + 1)) =
    (tokens[pos]?.any (·.text = "private") && isAt tokens .ident (pos + 1)) := by
  rw [isModifier, List.head?_drop, h]
  rfl

section Rules

variable (hspelled : ∀ t ∈ tokens, t.WellSpelled) {steps : Nat} (hsteps : tokens.length < steps)
include hspelled hsteps

theorem namedRule_gives (factory : AstFactory) (start : Nat) (isPrivate : Bool) {name : Token}
    (h : tokens[pos]? = some name) :
    Gives (fun r => pos < r.2 ∧ r.2 ≤ tokens.length ∧
        readNamedRule factory length start isPrivate name (tokens.drop (pos + 1)) =
          .ok (r.1, tokens.drop r.2))
      (fun e =>
        readNamedRule factory length start isPrivate name (tokens.drop (pos + 1)) = .error e)
      (namedRule tokens length steps factory start isPrivate pos) := by
  rw [namedRule, expect_eq length h]
  by_cases hname : name.kind = .ident
  · rw [if_pos hname, pure_bind]
    dsimp only
    cases hd : tokens[pos + 1]? with
    | none =>
        rw [expect_none length hd]
        refine .fails ?_
        simp only [drop_eq_nil_of_none hd, readNamedRule, hname, ne_eq, not_true_eq_false, if_false]
    | some d =>
        rw [expect_eq length hd]
        by_cases hdefine : d.kind = .define
        · rw [if_pos hdefine, pure_bind]
          dsimp only
          have hlt : pos + 1 < tokens.length := (List.getElem?_eq_some_iff.1 hd).1
          rw [drop_at hd, readNamedRule_body length factory start isPrivate hname hdefine,
            read_behind hd]
          refine (choice_gives length hspelled hsteps (by omega) hlt).bind (fun r hr => ?_)
            fun e he => ?_
          · obtain ⟨hle, hin, level, hlevel, hfinal, hbar, hmoves⟩ := hr
            obtain ⟨last, hlast, hstop⟩ :=
              tokenBefore_eq ((Nat.succ_pos _).trans_le hle) hin
            rw [hlast, pure_bind, hmoves, readAt_end hfinal hbar]
            refine .ends ⟨?_, ?_, ?_⟩
            · dsimp only
              split <;> omega
            · dsimp only
              split
              · obtain ⟨t, ht, -⟩ := kind_of_isAt ‹_›
                exact (List.getElem?_eq_some_iff.1 ht).1
              · exact hin
            · rw [Except.map, hlevel, hstop, dropSeparator_drop]
          · rw [he]
            rfl
        · rw [if_neg hdefine]
          refine .fails ?_
          simp only [drop_at hd, readNamedRule, hname, hdefine, ne_eq, not_true_eq_false,
            not_false_eq_true, if_false, if_true]
  · rw [if_neg hname]
    refine .fails ?_
    rw [readNamedRule.eq_def, if_pos hname]

theorem rule_gives (factory : AstFactory) (h : tokens[pos]? = some t) :
    Gives (fun r => pos < r.2 ∧ r.2 ≤ tokens.length ∧
        readRule factory length t (tokens.drop (pos + 1)) = .ok (r.1, tokens.drop r.2))
      (fun e => readRule factory length t (tokens.drop (pos + 1)) = .error e)
      (rule tokens length steps factory pos) := by
  have hstart : tokens[pos]?.elim 0 (·.span.start) = t.span.start := by rw [h]; rfl
  rw [rule, hstart, readRule.eq_def, isModifier_drop h]
  split
  · obtain ⟨-, hident⟩ := Bool.and_eq_true_iff.1 ‹_›
    obtain ⟨name, hname, -⟩ := kind_of_isAt hident
    rw [drop_at hname]
    exact (namedRule_gives length hspelled hsteps factory t.span.start true hname).mono
      (fun r hr => ⟨(Nat.lt_succ_self pos).trans hr.1, hr.2⟩) fun _ => id
  · exact namedRule_gives length hspelled hsteps factory t.span.start false h

end Rules

/-! ## Files -/

section Parts

variable {factory : AstFactory} {rest : List Token}

theorem readParts_block (hkind : t.kind = .leftBrace) :
    readParts factory length (t :: rest) = (readAttributes length rest).bind fun r =>
      (readParts factory length r.2).map fun more => (r.1 ++ more.1, more.2) := by
  rw [readParts.eq_def]
  simp only [hkind]
  split <;> rename_i hread <;> rw [hread] <;> rfl

theorem readParts_semicolon (hkind : t.kind = .semicolon) :
    readParts factory length (t :: rest) = readParts factory length rest := by
  rw [readParts.eq_def]
  simp only [hkind]

theorem readParts_other (hbrace : t.kind ≠ .leftBrace) (hsemicolon : t.kind ≠ .semicolon) :
    readParts factory length (t :: rest) = (readRule factory length t rest).bind fun r =>
      (readParts factory length r.2).map fun more => (more.1, r.1 :: more.2) := by
  rw [readParts.eq_def]
  dsimp only
  split
  · contradiction
  · contradiction
  · split <;> rename_i hread <;> rw [hread] <;> rfl

end Parts

/-- From `pos` on, these pairs and rules are read up to `pos'`. -/
def ReadsParts (tokens : List Token) (length : Nat) (factory : AstFactory) (pos : Nat)
    (pairs : List (String × String)) (rules : List Rule) (pos' : Nat) : Prop :=
  readParts factory length (tokens.drop pos) =
    (readParts factory length (tokens.drop pos')).map fun r => (pairs ++ r.1, rules ++ r.2)

theorem ReadsParts.refl (tokens : List Token) (length : Nat) (factory : AstFactory) (pos : Nat) :
    ReadsParts tokens length factory pos [] [] pos := by
  rw [ReadsParts]
  cases readParts factory length (tokens.drop pos) <;> rfl

theorem ReadsParts.trans {factory : AstFactory} {pairs more : List (String × String)}
    {rules others : List Rule} {pos' pos'' : Nat}
    (h : ReadsParts tokens length factory pos pairs rules pos')
    (h' : ReadsParts tokens length factory pos' more others pos'') :
    ReadsParts tokens length factory pos (pairs ++ more) (rules ++ others) pos'' := by
  rw [ReadsParts, h, h']
  cases readParts factory length (tokens.drop pos'') with
  | error e => rfl
  | ok r => simp [Except.map]

/-- What an iteration over the parts of a file comes to. -/
def PartsGive (tokens : List Token) (length : Nat) (factory : AstFactory)
    (parts : Attributes × List Rule) (pos : Nat) : Outcome (Turn (Attributes × List Rule)) → Prop :=
  Gives (Turn.Fits
      (fun parts' pos' => pos < pos' ∧ pos' ≤ tokens.length ∧ ∃ pairs rules,
        parts' = (insertAll parts.1 pairs, parts.2 ++ rules) ∧
        ReadsParts tokens length factory pos pairs rules pos')
      (fun parts' pos' => parts' = parts ∧ pos' = pos ∧
        readParts factory length (tokens.drop pos) = .ok ([], [])))
    (fun e => readParts factory length (tokens.drop pos) = .error e)

section Files

variable (hspelled : ∀ t ∈ tokens, t.WellSpelled) {steps : Nat} (hsteps : tokens.length < steps)
include hspelled hsteps

theorem blockTurn_gives (factory : AstFactory) (parts : Attributes × List Rule)
    (h : tokens[pos]? = some t) (hkind : t.kind = .leftBrace) :
    PartsGive tokens length factory parts pos
      (attributeBlock tokens length steps parts.1 pos >>= fun r =>
        pure (.again (r.1, parts.2) r.2)) := by
  refine (attributeBlock_gives length hspelled hsteps parts.1 h hkind).bind (fun r hr => ?_)
    fun e he => ?_
  · obtain ⟨hlt, hin, pairs, hr, hread⟩ := hr
    refine .ends (.again ⟨hlt, hin, pairs, [], by rw [hr, List.append_nil], ?_⟩)
    rw [ReadsParts, drop_at h, readParts_block length hkind, hread]
    rfl
  · rw [drop_at h, readParts_block length hkind, he]
    rfl

theorem ruleTurn_gives (factory : AstFactory) (parts : Attributes × List Rule)
    (h : tokens[pos]? = some t) (hbrace : t.kind ≠ .leftBrace) (hsemicolon : t.kind ≠ .semicolon) :
    PartsGive tokens length factory parts pos
      (rule tokens length steps factory pos >>= fun r =>
        pure (.again (parts.1, parts.2 ++ [r.1]) r.2)) := by
  refine (rule_gives length hspelled hsteps factory h).bind (fun r hr => ?_) fun e he => ?_
  · obtain ⟨hlt, hin, hread⟩ := hr
    refine .ends (.again ⟨hlt, hin, [], [r.1], rfl, ?_⟩)
    rw [ReadsParts, drop_at h, readParts_other length hbrace hsemicolon, hread]
    rfl
  · rw [drop_at h, readParts_other length hbrace hsemicolon, he]
    rfl

theorem fileTurn_gives (factory : AstFactory) (parts : Attributes × List Rule) :
    PartsGive tokens length factory parts pos (fileTurn tokens length steps factory parts pos) := by
  rw [fileTurn]
  cases h : tokens[pos]? with
  | none =>
      refine .ends (.leave ⟨rfl, rfl, ?_⟩)
      rw [drop_eq_nil_of_none h, readParts]
  | some t =>
      have hlt : pos < tokens.length := (List.getElem?_eq_some_iff.1 h).1
      dsimp only
      split
      · exact blockTurn_gives length hspelled hsteps factory parts h ‹_›
      · refine .ends (.again ⟨Nat.lt_succ_self pos, hlt, [], [], ?_, ?_⟩)
        · rw [List.append_nil]
          rfl
        · rw [ReadsParts, drop_at h, readParts_semicolon length ‹_›]
          exact ReadsParts.refl tokens length factory (pos + 1)
      · exact ruleTurn_gives length hspelled hsteps factory parts h ‹_› ‹_›

theorem file_eq (factory : AstFactory) (name : String) :
    file tokens length steps factory name = Outcome.of (ofTokens factory name length tokens) := by
  have hread : Gives (fun r => ∃ pairs rules, r.1 = (Attributes.ofPairs pairs, rules) ∧
      readParts factory length tokens = .ok (pairs, rules))
      (fun e => readParts factory length tokens = .error e)
      (Turn.loop (fileTurn tokens length steps factory) steps ([], []) 0) := by
    refine Turn.loop_gives tokens.length (fun parts pos => ∃ pairs rules,
      parts = (insertAll [] pairs, rules) ∧ ReadsParts tokens length factory 0 pairs rules pos)
      ?_ hsteps (Nat.zero_le _) ⟨[], [], rfl, .refl tokens length factory 0⟩
    rintro _ pos - ⟨pairs, rules, rfl, hread⟩
    refine (fileTurn_gives length hspelled hsteps factory _).mono (fun turn h => h.mono ?_ ?_) ?_
    · rintro _ pos' ⟨hlt, hin, more, others, rfl, hread'⟩
      refine ⟨hlt, hin, pairs ++ more, rules ++ others, ?_, hread.trans length hread'⟩
      rw [insertAll_append]
    · rintro _ _ ⟨rfl, rfl, hend⟩
      refine ⟨pairs, rules, rfl, ?_⟩
      rw [ReadsParts, hend, List.drop_zero] at hread
      rw [hread, Except.map, List.append_nil, List.append_nil]
    · intro e he
      rw [ReadsParts, he, List.drop_zero] at hread
      exact hread
  rw [file, ofTokens]
  generalize Turn.loop (fileTurn tokens length steps factory) steps ([], []) 0 = outcome at hread
  cases hread with
  | ends h =>
      obtain ⟨pairs, rules, hr, hread⟩ := h
      rw [hread, pure_bind]
      dsimp only
      rw [hr]
      rfl
  | fails h =>
      rw [h]
      rfl

end Files

end GrammarForge.Cursor
