import GrammarForge.Proofs.Code.Soundness

/-!
# Evaluation of generated conditions comes to an end

Wherever the grammar gives an expression a meaning, be it a match or a failure, the evaluation of
its condition has a result. The proof follows the derivation of the meaning: what a part evaluates
to is known from what the part means.
-/

namespace GrammarForge.Code

variable {σ μ : Type} [DecidableEq μ] {g : Grammar} {stream : List Terminal} {b : Builder σ μ}
  {position : σ → Nat}

theorem Reports.of_match {e : Expr} {s : σ} {r : Bool × σ} {q : Nat}
    (hr : Reports g stream position e s r) (h : g.Matches stream e (position s) (some q)) :
    ∃ s', r = (true, s') ∧ position s' = q := by
  obtain ⟨holds, s'⟩ := r
  have houtcome := hr.outcome.unique h
  cases holds with
  | true => exact ⟨s', rfl, Option.some.inj houtcome⟩
  | false => cases houtcome

theorem Reports.of_failure {e : Expr} {s : σ} {r : Bool × σ}
    (hr : Reports g stream position e s r) (h : g.Matches stream e (position s) none) :
    ∃ s', r = (false, s') ∧ position s' = position s := by
  obtain ⟨holds, s'⟩ := r
  have houtcome := hr.outcome.unique h
  cases holds with
  | true => cases houtcome
  | false => exact ⟨s', rfl, hr.position_eq rfl⟩

theorem Calls.evaluates {program : List Function} {name : String} {s : σ} {r : Bool × σ}
    (h : Calls b program name s r) (m : Option μ) :
    (Condition.call name).Evaluates b program m s r := by
  obtain ⟨count, hcall⟩ := h
  refine ⟨count, ?_⟩
  rw [Condition.eval]
  exact hcall

-- Evaluation ends by induction on the derivation. Soundness and the uniqueness of meanings tell what
-- a part has evaluated to, and with that which part is next.

section Completeness

variable
  (hb : b.Follows (declarations (Analysis.ofGrammar g).tokens) stream position)
  (htokens : ((Analysis.ofGrammar g).tokens.map tokenVariant).Nodup)
  (hnames : ((Analysis.ofGrammar g).rules.map fun r => parseFunction r.name).Nodup)

/-- The condition has a result at this position. -/
def Ends (g : Grammar) (b : Builder σ μ) (position : σ → Nat) (e : Expr) (p : Nat) : Prop :=
  ∀ m s, position s = p → ∃ r, (Condition.ofExpr (Analysis.ofGrammar g).isDefined e).Evaluates b
    (programOf g) m s r

include hb hnames

theorem Ends.call {rule : Rule} {p : Nat} (h : Ends g b position rule.expr p)
    (hmem : rule ∈ (Analysis.ofGrammar g).rules) {s : σ} (hs : position s = p) :
    ∃ r, Calls b (programOf g) (parseFunction rule.name) s r := by
  cases hprivate : rule.isPrivate with
  | true =>
      obtain ⟨r, count, heval⟩ := h none s hs
      refine ⟨r, count + 1, ?_⟩
      rw [callOf, find?_programOf hnames hmem]
      simpa [Function.run, RuleFunction.ofRule, RuleFunction.toFunction, hprivate] using heval
  | false =>
      obtain ⟨r, count, heval⟩ := h (some (b.mark s).1) (b.mark s).2 (by rw [hb.position_mark, hs])
      have hrun : (RuleFunction.ofRule (Analysis.ofGrammar g).isDefined rule).toFunction.run b
          (callOf b (programOf g) count) count s = some (r.1, if r.1 then
            b.done (b.mark s).1 (elementVariant rule.name) r.2
              else b.rollback (b.mark s).1 r.2) := by
        simp [Function.run, RuleFunction.ofRule, RuleFunction.toFunction, hprivate, heval]
      refine ⟨(r.1, if r.1 then b.done (b.mark s).1 (elementVariant rule.name) r.2
        else b.rollback (b.mark s).1 r.2), count + 1, ?_⟩
      rw [callOf, find?_programOf hnames hmem]
      exact hrun

omit hnames in
theorem ends_sequence {items : List Expr} {p : Nat}
    (h : ∀ m s, position s = p → ∃ r, Condition.EvaluatesUntil b (programOf g) false
      (Condition.ofExprs (Analysis.ofGrammar g).isDefined items) m s r) :
    Ends g b position (.sequence items) p := by
  intro m s hs
  rw [Condition.ofExpr]
  split
  · exact ⟨_, 0, by rw [Condition.eval]⟩
  · rename_i part hparts
    obtain ⟨r, count, hall⟩ := h m s hs
    rw [hparts, evalUntil_singleton] at hall
    exact ⟨r, count, hall⟩
  · obtain ⟨r, hall⟩ := h (some (b.mark s).1) (b.mark s).2 (by rw [hb.position_mark, hs])
    exact ⟨_, hall.attempt m⟩

include htokens

mutual

theorem ends_of_matches {e : Expr} {p : Nat} {o : Option Nat} : g.Matches stream e p o →
    (∀ t ∈ e.tokens, t ∈ (Analysis.ofGrammar g).tokens) → Ends g b position e p
  | .reference hr h, _ => by
    intro m s hs
    obtain ⟨hmem, rfl⟩ := Analysis.mem_rules_of_rule? hr
    obtain ⟨r, hcall⟩ := (ends_of_matches h (Analysis.mem_tokens hmem)).call hb hnames hmem hs
    refine ⟨r, ?_⟩
    rw [Condition.ofExpr, Analysis.isDefined_eq, hr]
    exact hcall.evaluates m
  | .undefined hr, _ => by
    intro m s hs
    rw [Condition.ofExpr, Analysis.isDefined_eq, hr]
    exact ⟨(false, s), 0, by simp [Condition.eval]⟩
  | .token _, _ | .token_fails _, _ => by
    intro m s hs
    rw [Condition.ofExpr]
    exact ⟨_, 0, by rw [Condition.eval]⟩
  | .literal _, _ | .literal_fails _, _ => by
    intro m s hs
    rw [Condition.ofExpr]
    exact ⟨_, 0, by rw [Condition.eval]⟩
  | .sequence h, hmem => ends_sequence hb (evaluatesUntil_of_matchesAll h hmem)
  | .choice h, hmem => by
    intro m s hs
    obtain ⟨r, hany⟩ := evaluatesUntil_of_matchesFirst h hmem m s hs
    rw [Condition.ofExpr]
    exact ⟨r, hany.any⟩
  | .optional h, hmem | .optional_fails h, hmem => by
    intro m s hs
    obtain ⟨r, hitem⟩ := ends_of_matches h hmem m s hs
    rw [Condition.ofExpr]
    exact ⟨_, hitem.optional⟩
  | .zeroOrMore h, hmem => by
    intro m s hs
    obtain ⟨s', hloops⟩ := loops_of_repeats h hmem s hs
    rw [Condition.ofExpr]
    exact ⟨_, hloops.repeated m⟩
  | .oneOrMore h hrest, hmem => by
    intro m s hs
    obtain ⟨r, hitem⟩ := ends_of_matches h hmem m s hs
    obtain ⟨s₁, rfl, hs₁⟩ :=
      (evaluates_reports hb htokens hnames (by exact hmem) hitem).of_match (hs ▸ h)
    obtain ⟨s', hloops⟩ := loops_of_repeats hrest hmem s₁ hs₁
    have hrest := (hloops.repeated m).goesOn (evaluatesUntil_nil false m s')
    rw [Condition.ofExpr]
    exact ⟨_, (hitem.goesOn hrest).all⟩
  | .oneOrMore_fails h, hmem => by
    intro m s hs
    obtain ⟨r, hitem⟩ := ends_of_matches h hmem m s hs
    obtain ⟨s₁, rfl, -⟩ :=
      (evaluates_reports hb htokens hnames (by exact hmem) hitem).of_failure (hs ▸ h)
    rw [Condition.ofExpr]
    exact ⟨_, (hitem.stops _).all⟩
termination_by structural h => h

theorem evaluatesUntil_of_matchesAll {es : List Expr} {p : Nat} {o : Option Nat} :
    g.MatchesAll stream es p o → (∀ t ∈ Expr.tokensOf es, t ∈ (Analysis.ofGrammar g).tokens) →
      ∀ m s, position s = p → ∃ r, Condition.EvaluatesUntil b (programOf g) false
        (Condition.ofExprs (Analysis.ofGrammar g).isDefined es) m s r
  | .nil, _ => by
    intro m s hs
    rw [Condition.ofExprs]
    exact ⟨_, evaluatesUntil_nil false m s⟩
  | .cons h hrest, hmem => by
    intro m s hs
    have hhead := fun t ht => hmem t (List.mem_append_left _ ht)
    obtain ⟨r, hpart⟩ := ends_of_matches h hhead m s hs
    obtain ⟨s₁, rfl, hs₁⟩ :=
      (evaluates_reports hb htokens hnames hhead hpart).of_match (hs ▸ h)
    obtain ⟨r, hall⟩ := evaluatesUntil_of_matchesAll hrest
      (fun t ht => hmem t (List.mem_append_right _ ht)) m s₁ hs₁
    rw [Condition.ofExprs]
    exact ⟨r, hpart.goesOn hall⟩
  | .fails h, hmem => by
    intro m s hs
    have hhead := fun t ht => hmem t (List.mem_append_left _ ht)
    obtain ⟨r, hpart⟩ := ends_of_matches h hhead m s hs
    obtain ⟨s₁, rfl, -⟩ :=
      (evaluates_reports hb htokens hnames hhead hpart).of_failure (hs ▸ h)
    rw [Condition.ofExprs]
    exact ⟨_, hpart.stops _⟩
termination_by structural h => h

theorem evaluatesUntil_of_matchesFirst {es : List Expr} {p : Nat} {o : Option Nat} :
    g.MatchesFirst stream es p o → (∀ t ∈ Expr.tokensOf es, t ∈ (Analysis.ofGrammar g).tokens) →
      ∀ m s, position s = p → ∃ r, Condition.EvaluatesUntil b (programOf g) true
        (Condition.ofExprs (Analysis.ofGrammar g).isDefined es) m s r
  | .nil, _ => by
    intro m s hs
    rw [Condition.ofExprs]
    exact ⟨_, evaluatesUntil_nil true m s⟩
  | .first h, hmem => by
    intro m s hs
    have hhead := fun t ht => hmem t (List.mem_append_left _ ht)
    obtain ⟨r, hpart⟩ := ends_of_matches h hhead m s hs
    obtain ⟨s₁, rfl, -⟩ :=
      (evaluates_reports hb htokens hnames hhead hpart).of_match (hs ▸ h)
    rw [Condition.ofExprs]
    exact ⟨_, hpart.stops _⟩
  | .next h hrest, hmem => by
    intro m s hs
    have hhead := fun t ht => hmem t (List.mem_append_left _ ht)
    obtain ⟨r, hpart⟩ := ends_of_matches h hhead m s hs
    obtain ⟨s₁, rfl, hs₁⟩ :=
      (evaluates_reports hb htokens hnames hhead hpart).of_failure (hs ▸ h)
    obtain ⟨r, hany⟩ := evaluatesUntil_of_matchesFirst hrest
      (fun t ht => hmem t (List.mem_append_right _ ht)) m s₁ (hs₁.trans hs)
    rw [Condition.ofExprs]
    exact ⟨r, hpart.goesOn hany⟩
termination_by structural h => h

theorem loops_of_repeats {e : Expr} {p q : Nat} : g.Repeats stream e p q →
    (∀ t ∈ e.tokens, t ∈ (Analysis.ofGrammar g).tokens) → ∀ s, position s = p →
      ∃ s', (Condition.ofExpr (Analysis.ofGrammar g).isDefined e).Loops b
        (programOf g) s s'
  | .fails h, hmem => by
    intro s hs
    have hmark : position (b.mark s).2 = p := by rw [hb.position_mark, hs]
    obtain ⟨r, hitem⟩ := ends_of_matches h hmem (some (b.mark s).1) (b.mark s).2 hmark
    obtain ⟨s₁, rfl, -⟩ :=
      (evaluates_reports hb htokens hnames hmem hitem).of_failure (hmark ▸ h)
    exact hitem.loops_leave (by simp)
  | .stays h, hmem => by
    intro s hs
    have hmark : position (b.mark s).2 = p := by rw [hb.position_mark, hs]
    obtain ⟨r, hitem⟩ := ends_of_matches h hmem (some (b.mark s).1) (b.mark s).2 hmark
    -- no progress: equal positions have equal marks, so the loop leaves
    obtain ⟨s₁, rfl, hs₁⟩ :=
      (evaluates_reports hb htokens hnames hmem hitem).of_match (hmark ▸ h)
    exact hitem.loops_leave fun _ => hb.mark_of_position (hs₁.trans (hb.position_mark s))
  | .moves h hq hrest, hmem => by
    intro s hs
    have hmark : position (b.mark s).2 = p := by rw [hb.position_mark, hs]
    obtain ⟨r, hitem⟩ := ends_of_matches h hmem (some (b.mark s).1) (b.mark s).2 hmark
    obtain ⟨s₁, rfl, hs₁⟩ :=
      (evaluates_reports hb htokens hnames hmem hitem).of_match (hmark ▸ h)
    obtain ⟨last, hloops⟩ := loops_of_repeats hrest hmem (b.mark s₁).2
      (by rw [hb.position_mark, hs₁])
    refine ⟨last, hitem.loops_next (fun heq => hq ?_) hloops⟩
    rw [← hs₁, ← hs]
    exact hb.mark_eq_iff.1 heq
termination_by structural h => h

end

end Completeness

end GrammarForge.Code
