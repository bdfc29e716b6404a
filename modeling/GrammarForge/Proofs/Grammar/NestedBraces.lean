import GrammarForge.Grammar.Braces
import Mathlib.Data.List.Basic

/-!
# Well nested braces

Which words of braces are well nested, said without the stack that the check goes by. The stack is
the braces that stay open in what was read, and closing them is one way to complete it. So the check
fails at the first brace after which nothing completes the word, and what it reports is this brace
and the innermost one that was open in front of it.
-/

namespace GrammarForge.BraceMatcher

/-- A brace and its place. -/
abbrev Brace := Char × Span

section

variable (m : BraceMatcher)

/-- Some pair has this opening brace. -/
def Opens (c : Char) : Prop := (m.closingFor? c).isSome = true

instance (c : Char) : Decidable (m.Opens c) := inferInstanceAs (Decidable (_ = true))

/-- No brace opens one pair and closes another. -/
def IsDisjoint : Prop := ∀ p ∈ m.pairs, ∀ q ∈ m.pairs, p.1 ≠ q.2

/-- The brace that a token is, if the brace opens or closes some pair. -/
def braceOf? (t : Token) : Option Brace :=
  (t.kind.brace?.filter fun c => (m.closingFor? c).isSome || m.isClosing c).map fun c => (c, t.span)

/-- The opening and closing braces of a token list. -/
def braces (ts : List Token) : List Brace := ts.filterMap m.braceOf?

/-- Every brace that opens is closed by the one that belongs to it, and what is between the two is
well nested itself. -/
inductive WellNested : List Char → Prop
  | nil : WellNested []
  | append {v w : List Char} : WellNested v → WellNested w → WellNested (v ++ w)
  | enclose {opening closing : Char} {w : List Char} : m.closingFor? opening = some closing →
      WellNested w → WellNested (opening :: (w ++ [closing]))

/-- More braces make a well nested word of these. -/
def Extendable (word : List Brace) : Prop :=
  ∃ more : List Char, m.WellNested (word.map Prod.fst ++ more)

/-- The brace opens, and none of those after it closes it. -/
def StaysOpen (b : Brace) (after : List Brace) : Prop :=
  m.Opens b.1 ∧ ∀ inner c rest, after = inner ++ c :: rest → m.WellNested (inner.map Prod.fst) →
    m.closingFor? b.1 ≠ some c.1

/-- No brace of the word stays open. -/
def AllClosed (word : List Brace) : Prop :=
  ∀ before b after, word = before ++ b :: after → ¬ m.StaysOpen b after

/-- The last brace of the word that stays open. -/
def IsInnermost (b : Brace) (word : List Brace) : Prop :=
  ∃ before after, word = before ++ b :: after ∧ m.StaysOpen b after ∧ m.AllClosed after

/-- What a brace makes of the braces that are open, innermost first. -/
def advance (stack : List Brace) (b : Brace) : Except GrammarError (List Brace) :=
  if m.Opens b.1 then .ok (b :: stack)
  else
    match stack with
    | [] => .error (.unmatchedBrace b.1 b.2)
    | o :: outer =>
      if m.closingFor? o.1 = some b.1 then .ok outer
      else .error (.mismatchedBrace o.1 o.2 b.1 b.2)

/-- No brace may be open at the end. -/
def conclude : List Brace → Except GrammarError Unit
  | [] => .ok ()
  | o :: _ => .error (.unclosedBrace o.1 o.2)

/-- After the word, the braces of the stack are open, innermost first. -/
inductive Leaves : List Brace → List Brace → Prop
  | none {word : List Brace} : m.WellNested (word.map Prod.fst) → Leaves word []
  | opening {before after stack : List Brace} {b : Brace} : Leaves before stack → m.Opens b.1 →
      m.WellNested (after.map Prod.fst) → Leaves (before ++ b :: after) (b :: stack)

end

variable {m : BraceMatcher}

/-! ## The check as a fold -/

theorem braceOf?_eq_some {t : Token} {b : Brace} : m.braceOf? t = some b ↔
    t.kind.brace? = some b.1 ∧ (m.Opens b.1 ∨ m.isClosing b.1 = true) ∧ t.span = b.2 := by
  obtain ⟨c, span⟩ := b
  simp only [braceOf?, Opens, Option.map_eq_some_iff, Option.filter_eq_some_iff, Bool.or_eq_true,
    Prod.mk.injEq]
  constructor
  · rintro ⟨_, ⟨hbrace, hkind⟩, rfl, hspan⟩
    exact ⟨hbrace, hkind, hspan⟩
  · rintro ⟨hbrace, hkind, hspan⟩
    exact ⟨c, ⟨hbrace, hkind⟩, rfl, hspan⟩

theorem braces_cons_none {t : Token} (h : m.braceOf? t = none) (ts : List Token) :
    m.braces (t :: ts) = m.braces ts := List.filterMap_cons_none h

theorem braces_cons_some {t : Token} {b : Brace} (h : m.braceOf? t = some b) (ts : List Token) :
    m.braces (t :: ts) = b :: m.braces ts := List.filterMap_cons_some h

section

variable {b o : Brace}

theorem advance_opening (h : m.Opens b.1) (stack : List Brace) :
    m.advance stack b = .ok (b :: stack) := if_pos h

theorem advance_nil (h : ¬ m.Opens b.1) : m.advance [] b = .error (.unmatchedBrace b.1 b.2) :=
  if_neg h

theorem advance_cons (h : ¬ m.Opens b.1) (o : Brace) (outer : List Brace) :
    m.advance (o :: outer) b = if m.closingFor? o.1 = some b.1 then .ok outer
      else .error (.mismatchedBrace o.1 o.2 b.1 b.2) := if_neg h

/-- A brace that cannot be added is not an opening one, and closes nothing or the wrong brace. -/
theorem advance_eq_error {stack : List Brace} {e : GrammarError}
    (h : m.advance stack b = .error e) :
    (stack = [] ∧ e = .unmatchedBrace b.1 b.2) ∨
      ∃ o outer, stack = o :: outer ∧ e = .mismatchedBrace o.1 o.2 b.1 b.2 := by
  by_cases hopens : m.Opens b.1
  · rw [advance_opening hopens] at h
    cases h
  · cases stack with
    | nil =>
        rw [advance_nil hopens] at h
        cases h
        exact .inl ⟨rfl, rfl⟩
    | cons o outer =>
        rw [advance_cons hopens] at h
        split at h <;> cases h
        exact .inr ⟨o, outer, rfl, rfl⟩

end

/-- The check looks at the opening and closing braces alone. -/
theorem checkFrom_eq (stack : List Brace) (ts : List Token) :
    m.checkFrom stack ts = (m.braces ts).foldlM m.advance stack >>= conclude := by
  induction ts generalizing stack with
  | nil => cases stack <;> rfl
  | cons t ts ih =>
      rw [checkFrom]
      cases hbrace : t.kind.brace? with
      | none =>
          have hnone : m.braceOf? t = none := by simp [braceOf?, hbrace]
          rw [braces_cons_none hnone]
          exact ih stack
      | some c =>
          by_cases hopens : m.Opens c
          · have hb : m.braceOf? t = some (c, t.span) :=
              braceOf?_eq_some.2 ⟨hbrace, .inl hopens, rfl⟩
            rw [braces_cons_some hb, List.foldlM_cons, advance_opening hopens]
            exact (if_pos hopens).trans (ih _)
          · refine (if_neg hopens).trans ?_
            by_cases hcloses : m.isClosing c = true
            · have hb : m.braceOf? t = some (c, t.span) :=
                braceOf?_eq_some.2 ⟨hbrace, .inr hcloses, rfl⟩
              rw [braces_cons_some hb, List.foldlM_cons, if_pos hcloses]
              cases stack with
              | nil =>
                  rw [advance_nil hopens]
                  rfl
              | cons o outer =>
                  rw [advance_cons hopens]
                  simp only
                  split
                  · exact ih outer
                  · rfl
            · have hpair : m.closingFor? c = none := by simpa [Opens] using hopens
              have hnone : m.braceOf? t = none := by simp [braceOf?, hbrace, hpair, hcloses]
              rw [braces_cons_none hnone, if_neg hcloses]
              exact ih stack

theorem check_eq (ts : List Token) :
    m.check ts = (m.braces ts).foldlM m.advance [] >>= conclude := checkFrom_eq [] ts

/-- A fold that fails does so at one of the entries. -/
theorem foldlM_eq_error {ε α β : Type} {f : α → β → Except ε α} {a : α} {bs : List β} {e : ε}
    (h : bs.foldlM f a = .error e) : ∃ front b back a', bs = front ++ b :: back ∧
      front.foldlM f a = .ok a' ∧ f a' b = .error e := by
  induction bs generalizing a with
  | nil => cases h
  | cons b bs ih =>
      rw [List.foldlM_cons] at h
      cases hstep : f a b with
      | error e' =>
          rw [hstep] at h
          cases h
          exact ⟨[], b, bs, a, rfl, rfl, hstep⟩
      | ok a₁ =>
          rw [hstep] at h
          obtain ⟨front, c, back, a', rfl, hfront, hc⟩ := ih h
          refine ⟨b :: front, c, back, a', rfl, ?_, hc⟩
          rw [List.foldlM_cons, hstep]
          exact hfront

/-! ## What is open -/

namespace Leaves

variable {word more stack : List Brace} {o b : Brace}

theorem append (h : m.Leaves word stack) (hmore : m.WellNested (more.map Prod.fst)) :
    m.Leaves (word ++ more) stack := by
  cases h with
  | none hword =>
      apply none
      rw [List.map_append]
      exact hword.append hmore
  | opening hbefore hopens hafter =>
      rw [List.append_assoc, List.cons_append]
      apply opening hbefore hopens
      rw [List.map_append]
      exact hafter.append hmore

theorem push (h : m.Leaves word stack) (hopens : m.Opens b.1) :
    m.Leaves (word ++ [b]) (b :: stack) := opening h hopens .nil

theorem close (h : m.Leaves word (o :: stack)) (hpair : m.closingFor? o.1 = some b.1) :
    m.Leaves (word ++ [b]) stack := by
  cases h with
  | @opening before after _ _ hbefore _ hafter =>
      rw [List.append_assoc, List.cons_append]
      apply hbefore.append
      rw [List.map_cons, List.map_append]
      exact .enclose hpair hafter

theorem advance {stack' : List Brace} (h : m.Leaves word stack)
    (hstep : m.advance stack b = .ok stack') : m.Leaves (word ++ [b]) stack' := by
  by_cases hopens : m.Opens b.1
  · rw [advance_opening hopens] at hstep
    cases hstep
    exact h.push hopens
  · cases stack with
    | nil =>
        rw [advance_nil hopens] at hstep
        cases hstep
    | cons o outer =>
        rw [advance_cons hopens] at hstep
        split at hstep <;> cases hstep
        exact h.close ‹_›

/-- What the stack holds stays open. -/
theorem run {stack' : List Brace} (h : m.Leaves word stack)
    (hrun : more.foldlM m.advance stack = .ok stack') : m.Leaves (word ++ more) stack' := by
  induction more generalizing word stack with
  | nil =>
      cases hrun
      rwa [List.append_nil]
  | cons b more ih =>
      rw [List.foldlM_cons] at hrun
      cases hstep : m.advance stack b with
      | error e =>
          rw [hstep] at hrun
          cases hrun
      | ok stack₁ =>
          rw [hstep] at hrun
          rw [← List.singleton_append, ← List.append_assoc]
          exact ih (h.advance hstep) hrun

theorem of_run (hrun : word.foldlM m.advance [] = .ok stack) : m.Leaves word stack := by
  have hnil : m.Leaves [] [] := none .nil
  exact hnil.run hrun

theorem wellNested (h : m.Leaves word []) : m.WellNested (word.map Prod.fst) := by
  cases h
  assumption

/-- Closing the braces that are open completes the word. -/
theorem extendable (h : m.Leaves word stack) : m.Extendable word := by
  induction stack generalizing word with
  | nil => exact ⟨[], by simpa using h.wellNested⟩
  | cons o outer ih =>
      have hopens : m.Opens o.1 := by
        cases h
        assumption
      obtain ⟨closing, hpair⟩ := Option.isSome_iff_exists.1 hopens
      have hclosed : m.Leaves (word ++ [(closing, ⟨0, 0⟩)]) outer := h.close hpair
      obtain ⟨more, hmore⟩ := ih hclosed
      exact ⟨closing :: more, by simpa using hmore⟩

/-- The braces of the stack are braces of the word. -/
theorem mem_of_mem (h : m.Leaves word stack) : ∀ o ∈ stack, o ∈ word := by
  induction h with
  | none => simp
  | opening _ _ _ ih =>
      intro o ho
      rcases List.mem_cons.1 ho with rfl | ho
      · simp
      · exact List.mem_append_left _ (ih o ho)

end Leaves

/-! ## Well nested words leave the stack as it is -/

theorem IsDisjoint.not_opens (hm : m.IsDisjoint) {opening closing : Char}
    (h : m.closingFor? opening = some closing) : ¬ m.Opens closing := by
  intro hopens
  obtain ⟨c, hc⟩ := Option.isSome_iff_exists.1 hopens
  obtain ⟨p, hp, -⟩ := Option.map_eq_some_iff.1 hc
  obtain ⟨q, hq, rfl⟩ := Option.map_eq_some_iff.1 h
  have hopening := List.find?_some hp
  exact hm p (List.mem_of_find?_eq_some hp) q (List.mem_of_find?_eq_some hq) (by simpa using hopening)

theorem foldlM_append (word more stack : List Brace) :
    (word ++ more).foldlM m.advance stack =
      word.foldlM m.advance stack >>= fun stack' => more.foldlM m.advance stack' :=
  List.foldlM_append

/-- Braces whose characters are enclosed by two others are so themselves. -/
theorem exists_enclosed {word : List Brace} {opening closing : Char} {chars : List Char}
    (h : word.map Prod.fst = opening :: (chars ++ [closing])) :
    ∃ o inner c, word = o :: (inner ++ [c]) ∧ o.1 = opening ∧ inner.map Prod.fst = chars ∧
      c.1 = closing := by
  obtain ⟨o, rest, rfl, ho, hrest⟩ := List.map_eq_cons_iff.1 h
  obtain ⟨inner, last, rfl, hinner, hlast⟩ := List.map_eq_append_iff.1 hrest
  obtain ⟨c, more, rfl, hc, hmore⟩ := List.map_eq_cons_iff.1 hlast
  obtain rfl := List.map_eq_nil_iff.1 hmore
  exact ⟨o, inner, c, rfl, ho, hinner, hc⟩

theorem run_of_wellNested (hm : m.IsDisjoint) {chars : List Char} (h : m.WellNested chars)
    {word : List Brace} (hword : word.map Prod.fst = chars) (stack : List Brace) :
    word.foldlM m.advance stack = .ok stack := by
  induction h generalizing word stack with
  | nil =>
      rw [List.map_eq_nil_iff.1 hword]
      rfl
  | append _ _ ihv ihw =>
      obtain ⟨v, w, rfl, hv, hw⟩ := List.map_eq_append_iff.1 hword
      rw [foldlM_append, ihv hv]
      exact ihw hw stack
  | enclose hpair _ ih =>
      obtain ⟨o, w, c, rfl, rfl, hw, rfl⟩ := exists_enclosed hword
      have hopens : m.Opens o.1 := by
        rw [Opens, hpair]
        rfl
      have hpop : m.advance (o :: stack) c = .ok stack := by
        rw [advance_cons (hm.not_opens hpair), if_pos hpair]
      rw [List.foldlM_cons, advance_opening hopens]
      change (w ++ [c]).foldlM m.advance (o :: stack) = _
      rw [foldlM_append, ih hw]
      change [c].foldlM m.advance (o :: stack) = _
      rw [List.foldlM_cons, hpop]
      rfl

/-- A word that can be completed was read without an error. -/
theorem exists_run_of_extendable (hm : m.IsDisjoint) {word : List Brace} (h : m.Extendable word) :
    ∃ stack, word.foldlM m.advance [] = .ok stack := by
  obtain ⟨more, hmore⟩ := h
  let completed : List Brace := word ++ more.map fun c => (c, ⟨0, 0⟩)
  have hcompleted : completed.map Prod.fst = word.map Prod.fst ++ more := by
    simp [completed, Function.comp_def]
  have hrun := run_of_wellNested hm hmore hcompleted []
  rw [foldlM_append] at hrun
  cases hword : word.foldlM m.advance [] with
  | ok stack => exact ⟨stack, rfl⟩
  | error e =>
      rw [hword] at hrun
      cases hrun

/-- A word leaves nothing open exactly if it is well nested. -/
theorem run_eq_nil_iff (hm : m.IsDisjoint) (word : List Brace) :
    word.foldlM m.advance [] = .ok [] ↔ m.WellNested (word.map Prod.fst) := by
  constructor
  · intro h
    exact (Leaves.of_run h).wellNested
  · intro h
    exact run_of_wellNested hm h rfl []

/-! ## Which brace is the innermost -/

theorem StaysOpen.of_append {b : Brace} {after more : List Brace}
    (h : m.StaysOpen b (after ++ more)) : m.StaysOpen b after := by
  refine ⟨h.1, fun inner c rest hafter => ?_⟩
  apply h.2 inner c (rest ++ more)
  rw [hafter, List.append_assoc, List.cons_append]

theorem AllClosed.append {word more : List Brace} (h : m.AllClosed word) (h' : m.AllClosed more) :
    m.AllClosed (word ++ more) := by
  intro before b after heq hopen
  rcases List.append_eq_append_iff.1 heq with ⟨front, rfl, hmore⟩ | ⟨front, hword, hafter⟩
  · exact h' front b after hmore hopen
  · cases front with
    | nil =>
        rw [List.nil_append] at hafter
        exact h' [] b after hafter.symm hopen
    | cons c front =>
        obtain ⟨rfl, rfl⟩ := List.cons.inj hafter
        exact h before b front hword hopen.of_append

/-- In a well nested word no brace stays open. -/
theorem allClosed_of_wellNested (hm : m.IsDisjoint) {chars : List Char} (h : m.WellNested chars)
    {word : List Brace} (hword : word.map Prod.fst = chars) : m.AllClosed word := by
  induction h generalizing word with
  | nil =>
      rw [List.map_eq_nil_iff.1 hword]
      intro before b after heq
      simp at heq
  | append _ _ ihv ihw =>
      obtain ⟨v, w, rfl, hv, hw⟩ := List.map_eq_append_iff.1 hword
      exact (ihv hv).append (ihw hw)
  | enclose hpair hnested ih =>
      obtain ⟨o, w, c, rfl, rfl, rfl, rfl⟩ := exists_enclosed hword
      have hclosing : m.AllClosed [c] := by
        intro before b after heq hopen
        obtain ⟨rfl, rfl⟩ : before = [] ∧ c = b := by
          cases before with
          | nil => exact ⟨rfl, (List.cons.inj heq).1⟩
          | cons _ before => simp at heq
        exact hm.not_opens hpair hopen.1
      intro before b after heq hopen
      cases before with
      | nil =>
          obtain ⟨rfl, rfl⟩ := List.cons.inj heq
          exact hopen.2 w c [] rfl hnested hpair
      | cons d before =>
          exact (ih rfl).append hclosing before b after (List.cons.inj heq).2 hopen

/-- The innermost brace of the stack is the last one that stays open. -/
theorem Leaves.isInnermost (hm : m.IsDisjoint) {word stack : List Brace} {o : Brace}
    (h : m.Leaves word (o :: stack)) : m.IsInnermost o word := by
  cases h with
  | @opening before after _ _ _ hopens hafter =>
      refine ⟨before, after, rfl, ⟨hopens, ?_⟩, allClosed_of_wellNested hm hafter rfl⟩
      rintro inner c rest rfl hinner hpair
      -- The brace that would close `o` closes nothing in the well nested word after `o`.
      have hrun := run_of_wellNested hm hafter rfl []
      rw [foldlM_append, run_of_wellNested hm hinner rfl] at hrun
      change (c :: rest).foldlM m.advance [] = _ at hrun
      rw [List.foldlM_cons, advance_nil (hm.not_opens hpair)] at hrun
      cases hrun

/-! ## What the check reports -/

/-- The check accepts the well nested words. Where it does not, it reports the first brace after
which nothing completes the word, together with the innermost brace that is open in front of it, if
there is one. If every beginning can be completed, it reports the innermost brace that stays open. -/
theorem check_reports_first_fault (hm : m.IsDisjoint) (ts : List Token) :
    (m.check ts = .ok () ↔ m.WellNested ((m.braces ts).map Prod.fst)) ∧
    (∀ front b back, m.braces ts = front ++ b :: back → m.Extendable front →
      ¬ m.Extendable (front ++ [b]) →
        (m.AllClosed front ∧ m.check ts = .error (.unmatchedBrace b.1 b.2)) ∨
        ∃ o, m.IsInnermost o front ∧ m.check ts = .error (.mismatchedBrace o.1 o.2 b.1 b.2)) ∧
    (¬ m.WellNested ((m.braces ts).map Prod.fst) →
      (∀ front, front <+: m.braces ts → m.Extendable front) →
        ∃ o, m.IsInnermost o (m.braces ts) ∧ m.check ts = .error (.unclosedBrace o.1 o.2)) := by
  rw [check_eq]
  refine ⟨?_, ?_, ?_⟩
  · rw [← run_eq_nil_iff hm]
    cases hrun : (m.braces ts).foldlM m.advance [] with
    | error e => simp [bind, Except.bind]
    | ok stack => cases stack <;> simp [bind, Except.bind, conclude]
  · intro front b back hts hfront hlast
    obtain ⟨stack, hrun⟩ := exists_run_of_extendable hm hfront
    have hleaves := Leaves.of_run hrun
    cases hstep : m.advance stack b with
    | ok stack' => exact (hlast (hleaves.advance hstep).extendable).elim
    | error e =>
        have hfails : (m.braces ts).foldlM m.advance [] >>= conclude = .error e := by
          rw [hts, foldlM_append, hrun]
          change (b :: back).foldlM m.advance stack >>= conclude = _
          rw [List.foldlM_cons, hstep]
          rfl
        rw [hfails]
        obtain ⟨rfl, rfl⟩ | ⟨o, outer, rfl, rfl⟩ := advance_eq_error hstep
        · exact .inl ⟨allClosed_of_wellNested hm hleaves.wellNested rfl, rfl⟩
        · exact .inr ⟨o, hleaves.isInnermost hm, rfl⟩
  · intro hnested hall
    obtain ⟨stack, hrun⟩ := exists_run_of_extendable hm (hall _ (List.prefix_refl _))
    rw [hrun]
    cases stack with
    | nil => exact (hnested ((run_eq_nil_iff hm _).1 hrun)).elim
    | cons o outer => exact ⟨o, (Leaves.of_run hrun).isInnermost hm, rfl⟩

/-- Two pairs have the same closing brace, and of two with the same opening brace the first counts.
So `([)` lacks a parenthesis, and the bracket after it is the wrong brace. -/
theorem check_reports_unused_closing : ∃ (m : BraceMatcher) (ts : List Token) (front : List Brace)
    (b : Brace), m.IsDisjoint ∧ m.pairs = [('(', ')'), ('[', ')'), ('(', ']')] ∧
      m.braces ts = front ++ [b] ∧ (m.braces ts).map Prod.fst = "([)]".toList ∧
      m.Extendable front ∧ ¬ m.Extendable (front ++ [b]) ∧
      ∃ o, m.IsInnermost o front ∧ m.check ts = .error (.mismatchedBrace o.1 o.2 b.1 b.2) := by
  let m : BraceMatcher := ⟨[('(', ')'), ('[', ')'), ('(', ']')]⟩
  let ts : List Token := [⟨.leftParen, "(", ⟨0, 1⟩⟩, ⟨.leftBracket, "[", ⟨1, 2⟩⟩,
    ⟨.rightParen, ")", ⟨2, 3⟩⟩, ⟨.rightBracket, "]", ⟨3, 4⟩⟩]
  let front : List Brace := [('(', ⟨0, 1⟩), ('[', ⟨1, 2⟩), (')', ⟨2, 3⟩)]
  have hm : m.IsDisjoint := by
    intro p hp q hq
    revert p q
    decide
  have hfront : m.Extendable front := ⟨[')'], .enclose rfl (.enclose rfl .nil)⟩
  have hlast : ¬ m.Extendable (front ++ [(']', ⟨3, 4⟩)]) := by
    intro h
    obtain ⟨stack, hrun⟩ := exists_run_of_extendable hm h
    cases hrun
  have hcheck : m.check ts = .error (.mismatchedBrace '(' ⟨0, 1⟩ ']' ⟨3, 4⟩) := rfl
  refine ⟨m, ts, front, (']', ⟨3, 4⟩), hm, rfl, rfl, rfl, hfront, hlast, ?_⟩
  rcases (check_reports_first_fault hm ts).2.1 front _ [] rfl hfront hlast with ⟨-, h⟩ | h
  · rw [hcheck] at h
    cases h
  · exact h

end GrammarForge.BraceMatcher
