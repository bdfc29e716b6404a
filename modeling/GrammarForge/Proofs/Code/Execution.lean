import GrammarForge.Code.Units
import GrammarForge.Proofs.Code.Functions

/-!
# Execution of generated code

Conditions are evaluated and statements are run on the state of a builder. Calls of functions and
rounds of loops are counted, and execution has no result where the count runs out, or where a
`break` leaves a block that is not the body of a loop. A result does not change with a higher count.
-/

namespace GrammarForge.Code

/-- The callbacks of generated code. `σ` are the states of the builder and `μ` its marks. -/
structure Builder (σ μ : Type) where
  consume (variant : String) : σ → Bool × σ
  consumeText (text : String) : σ → Bool × σ
  mark : σ → μ × σ
  rollback (m : μ) : σ → σ
  done (m : μ) (element : String) : σ → σ

/-- Where execution goes on after a statement. -/
inductive Flow (μ : Type) where
  /-- At the next statement, with this binding of `m`. -/
  | next (m : Option μ)
  /-- After the loop. -/
  | leave

variable {σ μ : Type}

/-- Do a step again and again, until it leaves. -/
def repeatUntil (step : σ → Option (Flow μ × σ)) : Nat → σ → Option σ
  | 0, _ => none
  | rounds + 1, s =>
    (step s).bind fun
      | (.leave, s) => some s
      | (.next _, s) => repeatUntil step rounds s

section Evaluation

variable [DecidableEq μ] (b : Builder σ μ) (call : String → σ → Option (Bool × σ)) (rounds : Nat)

mutual

/-- Evaluate a condition. -/
def Condition.eval : Condition → Option μ → σ → Option (Bool × σ)
  | .truth value, _, s => some (value, s)
  | .consume variant, _, s => some (b.consume variant s)
  | .consumeText text, _, s => some (b.consumeText text s)
  | .call function, _, s => call function s
  | .atMark, m, s => m.map fun m => (decide ((b.mark s).1 = m), (b.mark s).2)
  | .negation operand, m, s => (operand.eval m s).map fun (r, s) => (!r, s)
  | .all parts, m, s => Condition.evalUntil false parts m s
  | .any parts, m, s => Condition.evalUntil true parts m s
  | .parens inner, m, s => inner.eval m s
  | .block body value, m, s =>
    (Statement.runAll body m s).bind fun
      | (.next m, s) => value.eval m s
      | (.leave, _) => none
  | .branch test value other, m, s =>
    (test.eval m s).bind fun (r, s) => if r then value.eval m s else other.eval m s

/-- Evaluate conditions up to the first with this value. -/
def Condition.evalUntil (stop : Bool) : List Condition → Option μ → σ → Option (Bool × σ)
  | [], _, s => some (!stop, s)
  | part :: rest, m, s =>
    (part.eval m s).bind fun (r, s) =>
      if r = stop then some (stop, s) else Condition.evalUntil stop rest m s

/-- Run a statement. -/
def Statement.run : Statement → Option μ → σ → Option (Flow μ × σ)
  | .mark, _, s => some (.next (some (b.mark s).1), (b.mark s).2)
  | .rollback, m, s => m.map fun m => (.next (some m), b.rollback m s)
  | .ignore condition, m, s => (condition.eval m s).map fun (_, s) => (.next m, s)
  | .loop body, m, s =>
    (repeatUntil (fun s => Statement.runAll body m s) rounds s).map fun s => (.next m, s)
  | .breakIf condition, m, s =>
    (condition.eval m s).map fun (r, s) => (if r then .leave else .next m, s)

def Statement.runAll : List Statement → Option μ → σ → Option (Flow μ × σ)
  | [], m, s => some (.next m, s)
  | statement :: rest, m, s =>
    (statement.run m s).bind fun
      | (.next m, s) => Statement.runAll rest m s
      | (.leave, s) => some (.leave, s)

end

/-- Run a function. -/
def Function.run (f : Function) (s : σ) : Option (Bool × σ) :=
  match f.element with
  | none => f.body.eval b call rounds none s
  | some element =>
    let m := (b.mark s).1
    (f.body.eval b call rounds (some m) (b.mark s).2).map fun (r, s) =>
      (r, if r then b.done m element s else b.rollback m s)

end Evaluation

/-- Call the function of that name, with `count` for both the depth of calls and the rounds of
loops. -/
def callOf [DecidableEq μ] (b : Builder σ μ) (program : List Function) :
    Nat → String → σ → Option (Bool × σ)
  | 0, _, _ => none
  | count + 1, name, s =>
    (program.find? (·.name = name)).bind fun f => f.run b (callOf b program count) count s

/-! ## Higher counts -/

/-- What has a result in one function has the same in the other. -/
def Extends {α β : Type} (f f' : α → Option β) : Prop := ∀ a r, f a = some r → f' a = some r

theorem repeatUntil_mono {step step' : σ → Option (Flow μ × σ)} (hstep : Extends step step')
    {rounds rounds' : Nat} (hrounds : rounds ≤ rounds') :
    Extends (repeatUntil step rounds) (repeatUntil step' rounds') := by
  induction rounds generalizing rounds' with
  | zero =>
      intro s r h
      cases h
  | succ rounds ih =>
      intro s r h
      obtain ⟨rounds', rfl⟩ := Nat.exists_eq_succ_of_ne_zero (show rounds' ≠ 0 by omega)
      rw [repeatUntil, Option.bind_eq_some_iff] at h ⊢
      obtain ⟨⟨flow, s'⟩, hs, hrest⟩ := h
      refine ⟨(flow, s'), hstep s _ hs, ?_⟩
      cases flow with
      | leave => exact hrest
      | next m => exact ih (by omega) s' r hrest

section Monotone

variable [DecidableEq μ] (b : Builder σ μ) {call call' : String → σ → Option (Bool × σ)}
  {rounds rounds' : Nat}

mutual

theorem Condition.eval_mono (hcall : ∀ name, Extends (call name) (call' name))
    (hrounds : rounds ≤ rounds') : (c : Condition) → (m : Option μ) →
    Extends (c.eval b call rounds m) (c.eval b call' rounds' m)
  | .truth _, m | .consume _, m | .consumeText _, m | .atMark, m => by
    intro s r h
    rwa [Condition.eval] at h ⊢
  | .call function, m => by
    intro s r h
    rw [Condition.eval] at h ⊢
    exact hcall function s r h
  | .negation operand, m => by
    intro s r h
    rw [Condition.eval, Option.map_eq_some_iff] at h ⊢
    obtain ⟨r', hr', heq⟩ := h
    exact ⟨r', Condition.eval_mono hcall hrounds operand m s r' hr', heq⟩
  | .all parts, m => by
    intro s r h
    rw [Condition.eval] at h ⊢
    exact Condition.evalUntil_mono hcall hrounds false parts m s r h
  | .any parts, m => by
    intro s r h
    rw [Condition.eval] at h ⊢
    exact Condition.evalUntil_mono hcall hrounds true parts m s r h
  | .parens inner, m => by
    intro s r h
    rw [Condition.eval] at h ⊢
    exact Condition.eval_mono hcall hrounds inner m s r h
  | .block body value, m => by
    intro s r h
    rw [Condition.eval, Option.bind_eq_some_iff] at h ⊢
    obtain ⟨⟨flow, s'⟩, hbody, hvalue⟩ := h
    refine ⟨(flow, s'), Statement.runAll_mono hcall hrounds body m s _ hbody, ?_⟩
    cases flow with
    | leave => cases hvalue
    | next m' => exact Condition.eval_mono hcall hrounds value m' s' r hvalue
  | .branch test value other, m => by
    intro s r h
    rw [Condition.eval, Option.bind_eq_some_iff] at h ⊢
    obtain ⟨⟨holds, s'⟩, htest, hrest⟩ := h
    refine ⟨(holds, s'), Condition.eval_mono hcall hrounds test m s _ htest, ?_⟩
    cases holds with
    | true => exact Condition.eval_mono hcall hrounds value m s' r hrest
    | false => exact Condition.eval_mono hcall hrounds other m s' r hrest

theorem Condition.evalUntil_mono (hcall : ∀ name, Extends (call name) (call' name))
    (hrounds : rounds ≤ rounds') (stop : Bool) : (parts : List Condition) → (m : Option μ) →
    Extends (Condition.evalUntil b call rounds stop parts m)
      (Condition.evalUntil b call' rounds' stop parts m)
  | [], m => by
    intro s r h
    rwa [Condition.evalUntil] at h ⊢
  | part :: rest, m => by
    intro s r h
    rw [Condition.evalUntil, Option.bind_eq_some_iff] at h ⊢
    obtain ⟨⟨holds, s'⟩, hpart, hrest⟩ := h
    refine ⟨(holds, s'), Condition.eval_mono hcall hrounds part m s _ hpart, ?_⟩
    by_cases hstop : holds = stop
    · simpa only [if_pos hstop] using hrest
    · simp only [if_neg hstop] at hrest ⊢
      exact Condition.evalUntil_mono hcall hrounds stop rest m s' r hrest

theorem Statement.run_mono (hcall : ∀ name, Extends (call name) (call' name))
    (hrounds : rounds ≤ rounds') : (st : Statement) → (m : Option μ) →
    Extends (st.run b call rounds m) (st.run b call' rounds' m)
  | .mark, m | .rollback, m => by
    intro s r h
    rwa [Statement.run] at h ⊢
  | .ignore condition, m => by
    intro s r h
    rw [Statement.run, Option.map_eq_some_iff] at h ⊢
    obtain ⟨r', hr', heq⟩ := h
    exact ⟨r', Condition.eval_mono hcall hrounds condition m s r' hr', heq⟩
  | .loop body, m => by
    intro s r h
    have hbody := Statement.runAll_mono hcall hrounds body m
    rw [Statement.run, Option.map_eq_some_iff] at h ⊢
    obtain ⟨s', hs', heq⟩ := h
    exact ⟨s', repeatUntil_mono hbody hrounds s s' hs', heq⟩
  | .breakIf condition, m => by
    intro s r h
    rw [Statement.run, Option.map_eq_some_iff] at h ⊢
    obtain ⟨r', hr', heq⟩ := h
    exact ⟨r', Condition.eval_mono hcall hrounds condition m s r' hr', heq⟩

theorem Statement.runAll_mono (hcall : ∀ name, Extends (call name) (call' name))
    (hrounds : rounds ≤ rounds') : (body : List Statement) → (m : Option μ) →
    Extends (Statement.runAll b call rounds body m) (Statement.runAll b call' rounds' body m)
  | [], m => by
    intro s r h
    rwa [Statement.runAll] at h ⊢
  | st :: rest, m => by
    intro s r h
    rw [Statement.runAll, Option.bind_eq_some_iff] at h ⊢
    obtain ⟨⟨flow, s'⟩, hst, hrest⟩ := h
    refine ⟨(flow, s'), Statement.run_mono hcall hrounds st m s _ hst, ?_⟩
    cases flow with
    | leave => exact hrest
    | next m' => exact Statement.runAll_mono hcall hrounds rest m' s' r hrest

end

theorem Function.run_mono (hcall : ∀ name, Extends (call name) (call' name))
    (hrounds : rounds ≤ rounds') (f : Function) :
    Extends (f.run b call rounds) (f.run b call' rounds') := by
  intro s r h
  unfold Function.run at h ⊢
  cases helement : f.element with
  | none =>
      simp only [helement] at h ⊢
      exact Condition.eval_mono b hcall hrounds f.body none s r h
  | some element =>
      simp only [helement, Option.map_eq_some_iff] at h ⊢
      obtain ⟨r', hr', heq⟩ := h
      exact ⟨r', Condition.eval_mono b hcall hrounds f.body _ _ r' hr', heq⟩

end Monotone

theorem callOf_mono [DecidableEq μ] (b : Builder σ μ) (program : List Function) {count count' : Nat}
    (h : count ≤ count') (name : String) :
    Extends (callOf b program count name) (callOf b program count' name) := by
  induction count generalizing count' name with
  | zero =>
      intro s r hr
      cases hr
  | succ count ih =>
      intro s r hr
      obtain ⟨count', rfl⟩ := Nat.exists_eq_succ_of_ne_zero (show count' ≠ 0 by omega)
      rw [callOf, Option.bind_eq_some_iff] at hr ⊢
      obtain ⟨f, hf, hrun⟩ := hr
      have hle : count ≤ count' := by omega
      exact ⟨f, hf, f.run_mono b (ih hle) hle s r hrun⟩

/-! ## Evaluation -/

section Evaluates

variable [DecidableEq μ] (b : Builder σ μ) (program : List Function)

/-- Evaluation has this result, if the count is high enough. -/
def Condition.Evaluates (c : Condition) (m : Option μ) (s : σ) (r : Bool × σ) : Prop :=
  ∃ count, c.eval b (callOf b program count) count m s = some r

def Condition.EvaluatesUntil (stop : Bool) (parts : List Condition) (m : Option μ) (s : σ)
    (r : Bool × σ) : Prop :=
  ∃ count, Condition.evalUntil b (callOf b program count) count stop parts m s = some r

/-- A call of a function has this result, if the count is high enough. -/
def Calls (name : String) (s : σ) (r : Bool × σ) : Prop :=
  ∃ count, callOf b program count name s = some r

variable {b program}

theorem Condition.Evaluates.unique {c : Condition} {m : Option μ} {s : σ} {r r' : Bool × σ}
    (h : c.Evaluates b program m s r) (h' : c.Evaluates b program m s r') : r = r' := by
  obtain ⟨count, hr⟩ := h
  obtain ⟨count', hr'⟩ := h'
  have hle := Nat.le_max_left count count'
  have hle' := Nat.le_max_right count count'
  have hmax := c.eval_mono b (callOf_mono b program hle) hle m s r hr
  rw [c.eval_mono b (callOf_mono b program hle') hle' m s r' hr'] at hmax
  exact (Option.some.inj hmax).symm

theorem Calls.unique {name : String} {s : σ} {r r' : Bool × σ} (h : Calls b program name s r)
    (h' : Calls b program name s r') : r = r' := by
  obtain ⟨count, hr⟩ := h
  obtain ⟨count', hr'⟩ := h'
  have hmax := callOf_mono b program (Nat.le_max_left count count') name s r hr
  rw [callOf_mono b program (Nat.le_max_right count count') name s r' hr'] at hmax
  exact (Option.some.inj hmax).symm

end Evaluates

/-! ## Blocks -/

section Blocks

variable [DecidableEq μ] (b : Builder σ μ) (call : String → σ → Option (Bool × σ)) (rounds : Nat)

theorem eval_attempt (parts : List Condition) (m : Option μ) (s : σ) :
    (Condition.attempt parts).eval b call rounds m s =
      (Condition.evalUntil b call rounds false parts (some (b.mark s).1) (b.mark s).2).map
        fun (r, s') => (r, if r then s' else b.rollback (b.mark s).1 s') := by
  simp only [Condition.attempt, Condition.eval, Statement.runAll, Statement.run, Option.bind_some]
  cases Condition.evalUntil b call rounds false parts (some (b.mark s).1) (b.mark s).2 with
  | none => rfl
  | some r =>
      obtain ⟨r, s'⟩ := r
      cases r <;> rfl

theorem eval_optional (item : Condition) (m : Option μ) (s : σ) :
    (Condition.optional item).eval b call rounds m s =
      (item.eval b call rounds m s).map fun r => (true, r.2) := by
  simp only [Condition.optional, Condition.eval, Statement.runAll, Statement.run]
  cases item.eval b call rounds m s <;> rfl

/-- One round of a repetition. -/
def Condition.round (item : Condition) (s : σ) : Option (Flow μ × σ) :=
  (item.eval b call rounds (some (b.mark s).1) (b.mark s).2).map fun (r, s') =>
    if r then
      if (b.mark s').1 = (b.mark s).1 then (.leave, (b.mark s').2)
      else (.next (some (b.mark s).1), (b.mark s').2)
    else (.leave, s')

theorem eval_repeated (item : Condition) (m : Option μ) (s : σ) :
    (Condition.repeated item).eval b call rounds m s =
      (repeatUntil (item.round b call rounds) rounds s).map (true, ·) := by
  have hround : (fun s => Statement.runAll b call rounds
      [.mark, .breakIf (.any [.negation (.parens item), .atMark])] m s) =
        item.round b call rounds := by
    funext s
    simp only [Condition.round, Condition.eval, Condition.evalUntil, Statement.runAll,
      Statement.run, Option.bind_some]
    cases item.eval b call rounds (some (b.mark s).1) (b.mark s).2 with
    | none => rfl
    | some r =>
        obtain ⟨r, s'⟩ := r
        cases r with
        | false => rfl
        | true =>
            by_cases hmark : (b.mark s').1 = (b.mark s).1
            · simp [hmark]
            · simp [hmark]
  rw [Condition.repeated, Condition.eval, Statement.runAll, Statement.run, hround]
  cases repeatUntil (item.round b call rounds) rounds s with
  | none => rfl
  | some s' => simp only [Option.map_some, Option.bind_some, Statement.runAll, Condition.eval]

theorem evalUntil_singleton (stop : Bool) (c : Condition) (m : Option μ) (s : σ) :
    Condition.evalUntil b call rounds stop [c] m s = c.eval b call rounds m s := by
  simp only [Condition.evalUntil]
  cases c.eval b call rounds m s with
  | none => rfl
  | some r =>
      obtain ⟨r, s'⟩ := r
      cases r <;> cases stop <;> rfl

end Blocks

/-! ## Evaluation by parts -/

section Parts

variable [DecidableEq μ] {b : Builder σ μ} {program : List Function}

/-- The rounds of a repetition come to an end in this state. -/
def Condition.Loops (b : Builder σ μ) (program : List Function) (item : Condition) (s s' : σ) :
    Prop :=
  ∃ count, repeatUntil (item.round b (callOf b program count) count) count s = some s'

theorem Condition.round_mono {item : Condition} {count count' : Nat} (h : count ≤ count') :
    Extends (item.round b (callOf b program count) count)
      (item.round b (callOf b program count') count') := by
  intro s r hr
  rw [round, Option.map_eq_some_iff] at hr ⊢
  obtain ⟨r', hr', heq⟩ := hr
  exact ⟨r', item.eval_mono b (callOf_mono b program h) h _ _ r' hr', heq⟩

theorem evaluatesUntil_nil (stop : Bool) (m : Option μ) (s : σ) :
    Condition.EvaluatesUntil b program stop [] m s (!stop, s) := ⟨0, by rw [Condition.evalUntil]⟩

theorem Condition.Evaluates.stops {stop : Bool} {part : Condition} {m : Option μ} {s s' : σ}
    (h : part.Evaluates b program m s (stop, s')) (rest : List Condition) :
    Condition.EvaluatesUntil b program stop (part :: rest) m s (stop, s') := by
  obtain ⟨count, hpart⟩ := h
  refine ⟨count, ?_⟩
  simp only [Condition.evalUntil, hpart, Option.bind_some, if_true]

theorem Condition.Evaluates.goesOn {stop : Bool} {part : Condition} {rest : List Condition}
    {m : Option μ} {s s' : σ} {r : Bool × σ} (h : part.Evaluates b program m s (!stop, s'))
    (hrest : Condition.EvaluatesUntil b program stop rest m s' r) :
    Condition.EvaluatesUntil b program stop (part :: rest) m s r := by
  obtain ⟨count, hpart⟩ := h
  obtain ⟨count', hrest⟩ := hrest
  have hle := Nat.le_max_left count count'
  have hle' := Nat.le_max_right count count'
  have hne : (!stop) ≠ stop := by simp
  refine ⟨max count count', ?_⟩
  simp only [Condition.evalUntil, part.eval_mono b (callOf_mono b program hle) hle m s _ hpart,
    Option.bind_some, if_neg hne]
  exact Condition.evalUntil_mono b (callOf_mono b program hle') hle' stop rest m s' r hrest

theorem Condition.Evaluates.loops_leave {item : Condition} {s : σ} {r : Bool × σ}
    (h : item.Evaluates b program (some (b.mark s).1) (b.mark s).2 r)
    (hleave : r.1 = true → (b.mark r.2).1 = (b.mark s).1) : ∃ s', item.Loops b program s s' := by
  obtain ⟨count, heval⟩ := h
  -- the last round takes one off the count as well
  have hmono := item.eval_mono b (callOf_mono b program (Nat.le_add_right count 1))
    (Nat.le_add_right count 1) _ _ r heval
  obtain ⟨holds, s'⟩ := r
  cases holds with
  | true =>
      refine ⟨(b.mark s').2, count + 1, ?_⟩
      simp [repeatUntil, round, hmono, hleave rfl]
  | false =>
      refine ⟨s', count + 1, ?_⟩
      simp [repeatUntil, round, hmono]

theorem Condition.Evaluates.loops_next {item : Condition} {s s' last : σ}
    (h : item.Evaluates b program (some (b.mark s).1) (b.mark s).2 (true, s'))
    (hmoves : (b.mark s').1 ≠ (b.mark s).1) (hrest : item.Loops b program (b.mark s').2 last) :
    item.Loops b program s last := by
  obtain ⟨count, heval⟩ := h
  obtain ⟨count', hrest⟩ := hrest
  have hle : count ≤ max count count' + 1 := by omega
  have hle' : count' ≤ max count count' + 1 := by omega
  have hmono := item.eval_mono b (callOf_mono b program hle) hle _ _ _ heval
  have hloop := repeatUntil_mono (Condition.round_mono hle') (Nat.le_max_right count count') _ _
    hrest
  refine ⟨max count count' + 1, ?_⟩
  simpa [repeatUntil, round, hmono, hmoves] using hloop

theorem Condition.Loops.repeated {item : Condition} {s s' : σ} (h : item.Loops b program s s')
    (m : Option μ) : (Condition.repeated item).Evaluates b program m s (true, s') := by
  obtain ⟨count, hloop⟩ := h
  refine ⟨count, ?_⟩
  rw [eval_repeated, hloop]
  rfl

theorem Condition.EvaluatesUntil.all {parts : List Condition} {m : Option μ} {s : σ}
    {r : Bool × σ} (h : Condition.EvaluatesUntil b program false parts m s r) :
    (Condition.parens (.all parts)).Evaluates b program m s r := by
  obtain ⟨count, hall⟩ := h
  refine ⟨count, ?_⟩
  rwa [Condition.eval, Condition.eval]

theorem Condition.EvaluatesUntil.any {parts : List Condition} {m : Option μ} {s : σ}
    {r : Bool × σ} (h : Condition.EvaluatesUntil b program true parts m s r) :
    (Condition.parens (.any parts)).Evaluates b program m s r := by
  obtain ⟨count, hany⟩ := h
  refine ⟨count, ?_⟩
  rwa [Condition.eval, Condition.eval]

theorem Condition.EvaluatesUntil.attempt {parts : List Condition} {s : σ} {r : Bool × σ}
    (h : Condition.EvaluatesUntil b program false parts (some (b.mark s).1) (b.mark s).2 r)
    (m : Option μ) : (Condition.attempt parts).Evaluates b program m s
      (r.1, if r.1 then r.2 else b.rollback (b.mark s).1 r.2) := by
  obtain ⟨count, hall⟩ := h
  refine ⟨count, ?_⟩
  rw [eval_attempt, hall]
  rfl

theorem Condition.Evaluates.optional {item : Condition} {m : Option μ} {s : σ} {r : Bool × σ}
    (h : item.Evaluates b program m s r) :
    (Condition.optional item).Evaluates b program m s (true, r.2) := by
  obtain ⟨count, heval⟩ := h
  refine ⟨count, ?_⟩
  rw [eval_optional, heval]
  rfl

end Parts

end GrammarForge.Code
