import GrammarForge.Proofs.Code.Execution
import GrammarForge.Proofs.Generation.KeptRules
import GrammarForge.Proofs.Grammar.Meaning

/-!
# Generated conditions report what the grammar says

Over a builder that follows a token stream, a condition that holds has moved past a match of its
expression. A condition that does not hold means that the expression fails, and it leaves the
position as it was, whether or not it goes back to a mark itself.
-/

namespace GrammarForge.Code

variable {σ μ : Type}

/-- A builder reads a token stream in which every state has a position. A mark stands for the
position where it was made. -/
structure Builder.Follows (b : Builder σ μ) (tokens : List TokenDeclaration)
    (stream : List Terminal) (position : σ → Nat) : Prop where
  consume_iff (variant : String) (s : σ) : (b.consume variant s).1 = true ↔
    ∃ t ∈ stream[position s]?, ⟨variant, t.kind⟩ ∈ tokens
  consumeText_iff (text : String) (s : σ) : (b.consumeText text s).1 = true ↔
    ∃ t ∈ stream[position s]?, t.text = text
  position_consume (variant : String) (s : σ) :
    position (b.consume variant s).2 = position s + (b.consume variant s).1.toNat
  position_consumeText (text : String) (s : σ) :
    position (b.consumeText text s).2 = position s + (b.consumeText text s).1.toNat
  position_mark (s : σ) : position (b.mark s).2 = position s
  mark_of_position {s t : σ} (h : position s = position t) : (b.mark s).1 = (b.mark t).1
  position_rollback (s t : σ) : position (b.rollback (b.mark s).1 t) = position s
  position_done (m : μ) (element : String) (s : σ) : position (b.done m element s) = position s

theorem Builder.Follows.mark_eq_iff {b : Builder σ μ} {tokens : List TokenDeclaration}
    {stream : List Terminal} {position : σ → Nat} (hb : b.Follows tokens stream position)
    {s t : σ} : (b.mark s).1 = (b.mark t).1 ↔ position s = position t := by
  constructor
  · intro h
    rw [← hb.position_rollback s s, h]
    exact hb.position_rollback t s
  · exact hb.mark_of_position

/-! ## Soundness -/

/-- What a result says about a match. -/
def outcome (position : σ → Nat) (r : Bool × σ) : Option Nat :=
  if r.1 then some (position r.2) else none

section Soundness

variable [DecidableEq μ] (g : Grammar) (stream : List Terminal) (b : Builder σ μ)
  (position : σ → Nat) (call : String → σ → Option (Bool × σ)) (rounds : Nat)

/-- A result is what the grammar says of the expression, and a failure moves nowhere. -/
structure Reports (e : Expr) (s : σ) (r : Bool × σ) : Prop where
  outcome : g.Matches stream e (position s) (outcome position r)
  position_eq : r.1 = false → position r.2 = position s

/-- The condition does what the expression says. -/
def Condition.Meets (c : Condition) (e : Expr) : Prop :=
  ∀ m s r, c.eval b call rounds m s = some r → Reports g stream position e s r

variable {g stream b position call rounds}

/-- A condition that moves by one token at most. -/
theorem Reports.of_step {e : Expr} {s : σ} {r : Bool × σ}
    (hmoves : position r.2 = position s + r.1.toNat)
    (htrue : r.1 = true → g.Matches stream e (position s) (some (position s + 1)))
    (hfalse : r.1 = false → g.Matches stream e (position s) none) :
    Reports g stream position e s r := by
  obtain ⟨r, s'⟩ := r
  cases r with
  | true =>
      refine ⟨?_, by simp⟩
      have hpos : position s' = position s + 1 := hmoves
      rw [Code.outcome, if_pos rfl, hpos]
      exact htrue rfl
  | false => exact ⟨hfalse rfl, fun _ => hmoves⟩

theorem meets_undefined {name : String} (hname : g.rule? name = none) :
    (Condition.truth false).Meets g stream b position call rounds (.reference name) := by
  intro m s r h
  rw [Condition.eval] at h
  cases h
  exact ⟨.undefined hname, fun _ => rfl⟩

theorem meets_call {name function : String} {rule : Rule} (hrule : g.rule? name = some rule)
    (hcall : ∀ s r, call function s = some r → Reports g stream position rule.expr s r) :
    (Condition.call function).Meets g stream b position call rounds (.reference name) := by
  intro m s r h
  rw [Condition.eval] at h
  have hr := hcall s r h
  exact ⟨.reference hrule hr.outcome, hr.position_eq⟩

section Steps

variable {tokens : List TokenDeclaration} (hb : b.Follows tokens stream position)

include hb

theorem meets_consume {variant name : String}
    (htokens : ∀ kind, ⟨variant, kind⟩ ∈ tokens ↔ kind = name) :
    (Condition.consume variant).Meets g stream b position call rounds (.token name) := by
  intro m s r h
  rw [Condition.eval] at h
  cases h
  have hiff := hb.consume_iff variant s
  simp only [htokens] at hiff
  refine .of_step (hb.position_consume variant s) (fun h => .token (hiff.1 h)) fun h => ?_
  refine .token_fails fun hmatch => ?_
  rw [hiff.2 hmatch] at h
  cases h

theorem meets_consumeText (text : String) :
    (Condition.consumeText text).Meets g stream b position call rounds (.literal text) := by
  intro m s r h
  rw [Condition.eval] at h
  cases h
  have hiff := hb.consumeText_iff text s
  refine .of_step (hb.position_consumeText text s) (fun h => .literal (hiff.1 h)) fun h => ?_
  refine .literal_fails fun hmatch => ?_
  rw [hiff.2 hmatch] at h
  cases h

end Steps

theorem Condition.Meets.optional {c : Condition} {e : Expr}
    (h : c.Meets g stream b position call rounds e) :
    (Condition.optional c).Meets g stream b position call rounds (.optional e) := by
  intro m s r hr
  rw [eval_optional, Option.map_eq_some_iff] at hr
  obtain ⟨⟨holds, s'⟩, heval, rfl⟩ := hr
  have hitem := h m s _ heval
  refine ⟨?_, by simp⟩
  cases holds with
  | true => exact .optional hitem.outcome
  | false =>
      have hpos : position s' = position s := hitem.position_eq rfl
      rw [Code.outcome, if_pos rfl, hpos]
      exact .optional_fails hitem.outcome

/-! ### Repetitions -/

section Repetition

variable {tokens : List TokenDeclaration} (hb : b.Follows tokens stream position)

include hb

/-- A round that leaves has failed or made no progress, and any other has made some. -/
theorem Condition.Meets.round {c : Condition} {e : Expr}
    (h : c.Meets g stream b position call rounds e) {s s' : σ} {flow : Flow μ}
    (hround : c.round b call rounds s = some (flow, s')) :
    match flow with
    | .leave => g.Repeats stream e (position s) (position s')
    | .next _ => g.Matches stream e (position s) (some (position s')) ∧
        position s' ≠ position s := by
  rw [Condition.round, Option.map_eq_some_iff] at hround
  obtain ⟨⟨holds, s₁⟩, heval, heq⟩ := hround
  have hitem := h _ _ _ heval
  have houtcome := hitem.outcome
  rw [hb.position_mark] at houtcome
  cases holds with
  | false =>
      cases heq
      have hpos : position s' = position s := by
        rw [← hb.position_mark s]
        exact hitem.position_eq rfl
      rw [hpos]
      exact .fails houtcome
  | true =>
      by_cases hmark : (b.mark s₁).1 = (b.mark s).1
      · simp only [hmark, if_true] at heq
        cases heq
        have hpos := hb.mark_eq_iff.1 hmark
        rw [hb.position_mark, hpos]
        rw [Code.outcome, if_pos rfl, hpos] at houtcome
        exact .stays houtcome
      · simp only [hmark, if_true, if_false] at heq
        cases heq
        rw [hb.position_mark]
        exact ⟨houtcome, fun hpos => hmark (hb.mark_eq_iff.2 hpos)⟩

theorem Condition.Meets.repeats {c : Condition} {e : Expr}
    (h : c.Meets g stream b position call rounds e) {n : Nat} {s s' : σ}
    (hloop : repeatUntil (c.round b call rounds) n s = some s') :
    g.Repeats stream e (position s) (position s') := by
  induction n generalizing s with
  | zero => cases hloop
  | succ n ih =>
      rw [repeatUntil, Option.bind_eq_some_iff] at hloop
      obtain ⟨⟨flow, s₁⟩, hround, hrest⟩ := hloop
      have hspec := h.round hb hround
      cases flow with
      | leave =>
          cases hrest
          exact hspec
      | next m => exact .moves hspec.1 hspec.2 (ih hrest)

theorem Condition.Meets.repeated {c : Condition} {e : Expr}
    (h : c.Meets g stream b position call rounds e) :
    (Condition.repeated c).Meets g stream b position call rounds (.zeroOrMore e) := by
  intro m s r hr
  rw [eval_repeated, Option.map_eq_some_iff] at hr
  obtain ⟨s', hloop, rfl⟩ := hr
  exact ⟨.zeroOrMore (h.repeats hb hloop), by simp⟩

theorem Condition.Meets.oneOrMore {c : Condition} {e : Expr}
    (h : c.Meets g stream b position call rounds e) :
    (Condition.parens (.all [c, .repeated c])).Meets g stream b position call rounds
      (.oneOrMore e) := by
  intro m s r hr
  rw [Condition.eval, Condition.eval, Condition.evalUntil, Option.bind_eq_some_iff] at hr
  obtain ⟨⟨holds, s₁⟩, heval, hrest⟩ := hr
  have hitem := h m s _ heval
  cases holds with
  | false =>
      cases hrest
      exact ⟨.oneOrMore_fails hitem.outcome, hitem.position_eq⟩
  | true =>
      simp only [Bool.true_eq_false, if_false, evalUntil_singleton, eval_repeated,
        Option.map_eq_some_iff] at hrest
      obtain ⟨s', hloop, rfl⟩ := hrest
      exact ⟨.oneOrMore hitem.outcome (h.repeats hb hloop), by simp⟩

end Repetition

/-! ### Sequences and choices -/

theorem matchesAll_of_evalUntil {cs : List Condition} {es : List Expr}
    (h : List.Forall₂ (Condition.Meets g stream b position call rounds) cs es) {m : Option μ}
    {s : σ} {r : Bool × σ} (hr : Condition.evalUntil b call rounds false cs m s = some r) :
    g.MatchesAll stream es (position s) (outcome position r) := by
  induction h generalizing s with
  | nil =>
      rw [Condition.evalUntil] at hr
      cases hr
      exact .nil
  | cons hc _ ih =>
      rw [Condition.evalUntil, Option.bind_eq_some_iff] at hr
      obtain ⟨⟨holds, s₁⟩, heval, hrest⟩ := hr
      have hpart := hc m s _ heval
      cases holds with
      | true => exact .cons hpart.outcome (ih hrest)
      | false =>
          cases hrest
          exact .fails hpart.outcome

theorem Condition.Meets.choice {cs : List Condition} {es : List Expr}
    (h : List.Forall₂ (Condition.Meets g stream b position call rounds) cs es) :
    (Condition.parens (.any cs)).Meets g stream b position call rounds (.choice es) := by
  suffices hany : ∀ m s r, Condition.evalUntil b call rounds true cs m s = some r →
      g.MatchesFirst stream es (position s) (Code.outcome position r) ∧
        (r.1 = false → position r.2 = position s) by
    intro m s r hr
    rw [Condition.eval, Condition.eval] at hr
    exact ⟨.choice (hany m s r hr).1, (hany m s r hr).2⟩
  induction h with
  | nil =>
      intro m s r hr
      rw [Condition.evalUntil] at hr
      cases hr
      exact ⟨.nil, fun _ => rfl⟩
  | cons hc _ ih =>
      intro m s r hr
      rw [Condition.evalUntil, Option.bind_eq_some_iff] at hr
      obtain ⟨⟨holds, s₁⟩, heval, hrest⟩ := hr
      have hpart := hc m s _ heval
      cases holds with
      | true =>
          cases hrest
          exact ⟨.first hpart.outcome, by simp⟩
      | false =>
          have hpos : position s₁ = position s := hpart.position_eq rfl
          have hnext := ih m s₁ r hrest
          rw [hpos] at hnext
          exact ⟨.next hpart.outcome hnext.1, hnext.2⟩

theorem Condition.Meets.sequence {tokens : List TokenDeclaration}
    (hb : b.Follows tokens stream position) {isDefined : String → Bool} {es : List Expr}
    (h : List.Forall₂ (Condition.Meets g stream b position call rounds)
      (Condition.ofExprs isDefined es) es) :
    (Condition.ofExpr isDefined (.sequence es)).Meets g stream b position call rounds
      (.sequence es) := by
  rw [Condition.ofExpr]
  split
  · rename_i hparts
    rw [hparts] at h
    intro m s r hr
    rw [Condition.eval] at hr
    cases hr
    cases h
    exact ⟨.sequence .nil, by simp⟩
  · rename_i part hparts
    rw [hparts] at h
    intro m s r hr
    cases h with
    | cons hc hrest =>
        cases hrest
        have hpart := hc m s r hr
        refine ⟨.sequence ?_, hpart.position_eq⟩
        rw [← evalUntil_singleton b call rounds false] at hr
        exact matchesAll_of_evalUntil (.cons hc .nil) hr
  -- the parts may have moved before one of them fails; only here is there a mark to go back to
  · intro m s r hr
    rw [eval_attempt, Option.map_eq_some_iff] at hr
    obtain ⟨⟨holds, s'⟩, hall, rfl⟩ := hr
    have hmatches := matchesAll_of_evalUntil h hall
    rw [hb.position_mark] at hmatches
    cases holds with
    | true => exact ⟨.sequence hmatches, by simp⟩
    | false => exact ⟨.sequence hmatches, fun _ => hb.position_rollback s s'⟩

/-! ### Expressions of a grammar -/

/-- The declarations of the types unit. -/
def declarations (tokens : List String) : List TokenDeclaration :=
  tokens.map fun t => ⟨tokenVariant t, t⟩

/-- If variants are distinct, each of them stands for one token. -/
theorem mem_declarations {names : List String} (hnames : (names.map tokenVariant).Nodup)
    {name : String} (hname : name ∈ names) (kind : String) :
    ⟨tokenVariant name, kind⟩ ∈ declarations names ↔ kind = name := by
  rw [declarations, List.mem_map]
  constructor
  · rintro ⟨t, ht, heq⟩
    rw [TokenDeclaration.mk.injEq] at heq
    obtain ⟨hvariant, rfl⟩ := heq
    exact List.inj_on_of_nodup_map hnames ht hname hvariant
  · rintro rfl
    exact ⟨kind, hname, rfl⟩

section Expressions

mutual

theorem ofExpr_meets
    (hb : b.Follows (declarations (Analysis.ofGrammar g).tokens) stream position)
    (htokens : ((Analysis.ofGrammar g).tokens.map tokenVariant).Nodup)
    (hcall : ∀ name rule, g.rule? name = some rule →
      ∀ s r, call (parseFunction name) s = some r → Reports g stream position rule.expr s r) :
    (e : Expr) → (∀ t ∈ e.tokens, t ∈ (Analysis.ofGrammar g).tokens) →
    (Condition.ofExpr (Analysis.ofGrammar g).isDefined e).Meets g stream b position call rounds e
  | .reference name, _ => by
    rw [Condition.ofExpr, Analysis.isDefined_eq]
    cases hrule : g.rule? name with
    | none => exact meets_undefined hrule
    | some rule => exact meets_call hrule (hcall name rule hrule)
  | .token name, hmem => by
    rw [Condition.ofExpr]
    exact meets_consume hb (mem_declarations htokens (hmem name (by simp [Expr.tokens])))
  | .literal text, _ => by
    rw [Condition.ofExpr]
    exact meets_consumeText hb text
  | .sequence items, hmem => .sequence hb (ofExprs_meet hb htokens hcall items hmem)
  | .choice alternatives, hmem => by
    rw [Condition.ofExpr]
    exact .choice (ofExprs_meet hb htokens hcall alternatives hmem)
  | .optional item, hmem => by
    rw [Condition.ofExpr]
    exact (ofExpr_meets hb htokens hcall item hmem).optional
  | .zeroOrMore item, hmem => by
    rw [Condition.ofExpr]
    exact (ofExpr_meets hb htokens hcall item hmem).repeated hb
  | .oneOrMore item, hmem => by
    rw [Condition.ofExpr]
    exact (ofExpr_meets hb htokens hcall item hmem).oneOrMore hb

theorem ofExprs_meet
    (hb : b.Follows (declarations (Analysis.ofGrammar g).tokens) stream position)
    (htokens : ((Analysis.ofGrammar g).tokens.map tokenVariant).Nodup)
    (hcall : ∀ name rule, g.rule? name = some rule →
      ∀ s r, call (parseFunction name) s = some r → Reports g stream position rule.expr s r) :
    (es : List Expr) →
    (∀ t ∈ Expr.tokensOf es, t ∈ (Analysis.ofGrammar g).tokens) →
    List.Forall₂ (Condition.Meets g stream b position call rounds)
      (Condition.ofExprs (Analysis.ofGrammar g).isDefined es) es
  | [], _ => by
    rw [Condition.ofExprs]
    exact .nil
  | e :: rest, hmem => by
    have hhead := ofExpr_meets hb htokens hcall e fun t ht => hmem t (List.mem_append_left _ ht)
    have hrest := ofExprs_meet hb htokens hcall rest fun t ht => hmem t (List.mem_append_right _ ht)
    rw [Condition.ofExprs]
    exact .cons hhead hrest

end

variable
  (hb : b.Follows (declarations (Analysis.ofGrammar g).tokens) stream position)
  (htokens : ((Analysis.ofGrammar g).tokens.map tokenVariant).Nodup)
  (hcall : ∀ name rule, g.rule? name = some rule →
    ∀ s r, call (parseFunction name) s = some r → Reports g stream position rule.expr s r)

include hb htokens hcall

/-- A function of a rule reports what its expression means, whether or not it closes a node. -/
theorem run_reports (rule : Rule) (hmem : ∀ t ∈ rule.expr.tokens, t ∈ (Analysis.ofGrammar g).tokens)
    {s : σ} {r : Bool × σ} (hr : ((RuleFunction.ofRule (Analysis.ofGrammar g).isDefined
      rule).toFunction).run b call rounds s = some r) :
    Reports g stream position rule.expr s r := by
  have hbody : (Condition.ofExpr (Analysis.ofGrammar g).isDefined rule.expr).Meets g stream b
      position call rounds rule.expr := ofExpr_meets hb htokens hcall rule.expr hmem
  unfold Function.run at hr
  cases hprivate : rule.isPrivate with
  | true =>
      simp only [RuleFunction.ofRule, RuleFunction.toFunction, hprivate, if_true] at hr
      exact hbody none s r hr
  | false =>
      simp only [RuleFunction.ofRule, RuleFunction.toFunction, hprivate, Bool.false_eq_true,
        if_false, Option.map_eq_some_iff] at hr
      obtain ⟨⟨holds, s'⟩, heval, rfl⟩ := hr
      have hreport := hbody _ _ _ heval
      have houtcome := hreport.outcome
      rw [hb.position_mark] at houtcome
      cases holds with
      | true =>
          refine ⟨?_, by simp⟩
          simp only [Code.outcome, if_true, hb.position_done] at houtcome ⊢
          exact houtcome
      | false => exact ⟨houtcome, fun _ => hb.position_rollback s s'⟩

end Expressions

/-! ### Calls -/

/-- The functions of the parser. -/
def programOf (g : Grammar) : List Function :=
  (Analysis.ofGrammar g).rules.map fun r =>
    (RuleFunction.ofRule (Analysis.ofGrammar g).isDefined r).toFunction

section Calls

variable
  (hb : b.Follows (declarations (Analysis.ofGrammar g).tokens) stream position)
  (htokens : ((Analysis.ofGrammar g).tokens.map tokenVariant).Nodup)
  (hnames : ((Analysis.ofGrammar g).rules.map fun r => parseFunction r.name).Nodup)

include hnames

theorem find?_programOf {rule : Rule} (h : rule ∈ (Analysis.ofGrammar g).rules) :
    (programOf g).find? (·.name = parseFunction rule.name) =
      some (RuleFunction.ofRule (Analysis.ofGrammar g).isDefined rule).toFunction := by
  have hfind := find?_of_nodup_map hnames h
  rw [programOf, List.find?_map]
  exact congrArg (Option.map _) hfind

include hb htokens

theorem callOf_reports (count : Nat) {name : String} {rule : Rule}
    (hrule : g.rule? name = some rule) {s : σ} {r : Bool × σ} (hr : callOf b (programOf g) count
      (parseFunction name) s = some r) : Reports g stream position rule.expr s r := by
  induction count generalizing name rule s r with
  | zero => cases hr
  | succ count ih =>
      obtain ⟨hmem, rfl⟩ := Analysis.mem_rules_of_rule? hrule
      rw [callOf, find?_programOf hnames hmem] at hr
      exact run_reports hb htokens (fun _ _ hrule _ _ hr => ih hrule hr) rule
        (Analysis.mem_tokens hmem) hr

/-- What an evaluation reports is what the grammar says. -/
theorem evaluates_reports {e : Expr} (hmem : ∀ t ∈ e.tokens, t ∈ (Analysis.ofGrammar g).tokens)
    {m : Option μ} {s : σ} {r : Bool × σ}
    (hr : (Condition.ofExpr (Analysis.ofGrammar g).isDefined e).Evaluates b
      (programOf g) m s r) : Reports g stream position e s r := by
  obtain ⟨count, heval⟩ := hr
  exact ofExpr_meets hb htokens
    (fun _ _ hrule _ _ hr => callOf_reports hb htokens hnames count hrule hr) e hmem m s r heval

end Calls

end Soundness

end GrammarForge.Code
