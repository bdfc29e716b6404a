import GrammarForge.Proofs.Processing.AttemptTraces

/-!
# How many rounds there are

What the store answers settles how long a run goes on, whatever the answers have to do with what was
created. The rounds are counted up to the first empty answer or up to the limit, and one more
follows. The grammars are all attempted in the first round, so the later ones report nothing, and
the limit is reported exactly if no answer up to it is empty.
-/

namespace GrammarForge.Processor

open DiagnosticSink

variable {δ σ ω : Type} [DiagnosticSink δ] [ArtifactStore σ ω]

/-- What the store answers in `n` rounds with a question after each. -/
def answers : Nat → Processor δ σ → List (List String)
  | 0, _ => []
  | n + 1, p => p.roundAndTake.1 :: answers n p.roundAndTake.2

/-- The processor after `n` rounds with a question after each. -/
def afterRounds : Nat → Processor δ σ → Processor δ σ
  | 0, p => p
  | n + 1, p => afterRounds n p.roundAndTake.2

/-- How many of these answers a run waits for: up to the first empty one, if there is one. -/
def waitsFor (answers : List (List String)) : Nat :=
  min (answers.findIdx List.isEmpty + 1) answers.length

theorem length_answers (n : Nat) (p : Processor δ σ) : (p.answers n).length = n := by
  induction n generalizing p with
  | zero => rfl
  | succ n ih => rw [answers, List.length_cons, ih]

theorem answers_concat (n : Nat) (p : Processor δ σ) :
    p.answers (n + 1) = p.answers n ++ [(p.afterRounds n).roundAndTake.1] := by
  induction n generalizing p with
  | zero => rfl
  | succ n ih =>
      have hrest := ih p.roundAndTake.2
      rw [answers, hrest]
      rfl

/-- An answer is what the store says was created, after the round. -/
theorem answers_eq_map (n : Nat) (p : Processor δ σ) :
    p.answers n = (List.range n).map fun i =>
      (ArtifactStore.takeCreated (p.afterRounds i).runRound.2.store).1 := by
  induction n with
  | zero => rfl
  | succ n ih =>
      rw [answers_concat, ih, List.range_succ, List.map_append]
      rfl

theorem afterRounds_succ (n : Nat) (p : Processor δ σ) :
    p.afterRounds (n + 1) = (p.afterRounds n).roundAndTake.2 := by
  induction n generalizing p with
  | zero => rfl
  | succ n ih => exact ih p.roundAndTake.2

theorem waitsFor_cons (names : List String) (rest : List (List String)) :
    waitsFor (names :: rest) = if names.isEmpty then 1 else waitsFor rest + 1 := by
  unfold waitsFor
  rw [List.findIdx_cons, List.length_cons]
  cases names with
  | nil => simp
  | cons name names => simp [Nat.succ_min_succ]

theorem script_fill (bytes : Bytes) (sink : ArtifactSink ω) (s : RunState δ (ScriptedStore σ)) :
    (RunState.host.fill bytes sink s).2.store.script = s.store.script := by
  have hwrite : (RunState.host.write bytes sink s).2.2.store.script = s.store.script := by
    cases sink <;> rfl
  have hflush (sink : ArtifactSink ω) (t : RunState δ (ScriptedStore σ)) :
      (RunState.host.flush sink t).2.2.store.script = t.store.script := by
    cases sink <;> rfl
  have hclose (sink : ArtifactSink ω) (t : RunState δ (ScriptedStore σ)) :
      (RunState.host.close sink t).store.script = t.store.script := by
    cases sink <;> rfl
  unfold Generation.Host.fill
  cases hresult : RunState.host.write bytes sink s with
  | mk result rest =>
      rw [hresult] at hwrite
      cases result with
      | error e => exact (hclose ..).trans hwrite
      | ok => exact (hclose ..).trans ((hflush ..).trans hwrite)

/-- No request uses up an answer. -/
theorem script_after (r : Generation.Requested (RunState δ (ScriptedStore σ))) :
    r.after.store.script = r.state.store.script := by
  obtain ⟨a, s⟩ := r
  have hrequest : (s.toWorkspace.request a.name.text).2.store.script = s.store.script := by
    unfold Workspace.request
    split <;> rfl
  have hfill (sink : ArtifactSink ω) (t : RunState δ (ScriptedStore σ)) :=
    script_fill (encodeText a.text) sink t
  unfold Generation.Requested.after
  simp only [Generation.Host.emit, RunState.host] at hfill ⊢
  cases hresult : s.toWorkspace.request a.name.text with
  | mk result w =>
      rw [hresult] at hrequest
      cases result with
      | error e => exact hrequest
      | ok sink => exact (hfill sink _).trans hrequest

theorem script_runRound (p : Processor δ (ScriptedStore σ)) :
    p.runRound.2.store.script = p.store.script :=
  (runRound_linked p).invariant (motive := fun _ w => w.store.script = p.store.script)
    (fun _ r h => (script_after r).trans h) rfl

/-- Every list of answers is given in some run. -/
theorem answers_scripted {n : Nat} {p : Processor δ (ScriptedStore σ)}
    (h : n ≤ p.store.script.length) : p.answers n = p.store.script.take n := by
  induction n generalizing p with
  | zero => rfl
  | succ n ih =>
      obtain ⟨answer, rest, hscript⟩ := List.exists_cons_of_length_pos (Nat.zero_lt_of_lt h)
      have hround : p.runRound.2.store.script = answer :: rest := by
        rw [script_runRound, hscript]
      obtain ⟨hanswer, hrest⟩ :
          p.roundAndTake.1 = answer ∧ p.roundAndTake.2.store.script = rest := by
        simp only [roundAndTake, takeCreated, Workspace.takeCreated, ArtifactStore.takeCreated,
          ScriptedStore.takeCreated, hround, and_self]
      have hlength : n ≤ p.roundAndTake.2.store.script.length := by
        rw [hscript] at h
        rw [hrest]
        exact Nat.le_of_succ_le_succ h
      rw [answers, hanswer, ih hlength, hrest, hscript, List.take_succ_cons]

theorem pending_roundAndTake (p : Processor δ σ) : p.roundAndTake.2.queue.pending = [] :=
  drain_pending p

theorem roundAndTake_of_nil {p : Processor δ σ} (h : p.queue.pending = []) :
    p.roundAndTake = p.takeCreated := by
  have hround : p.runRound.2 = p := drain_of_nil h
  rw [roundAndTake, hround]

theorem pending_afterRounds {p : Processor δ σ} (h : p.queue.pending = []) (n : Nat) :
    (p.afterRounds n).queue.pending = [] := by
  induction n generalizing p with
  | zero => exact h
  | succ n ih => exact ih (pending_roundAndTake p)

theorem sink_afterRounds {p : Processor δ σ} (h : p.queue.pending = []) (n : Nat) :
    (p.afterRounds n).sink = p.sink := by
  induction n generalizing p with
  | zero => rfl
  | succ n ih =>
      rw [afterRounds, ih (pending_roundAndTake p), roundAndTake_of_nil h]
      rfl

/-- Everything that is reported in any number of rounds is reported in the first. -/
theorem sink_afterRounds_succ (n : Nat) (p : Processor δ σ) :
    (p.afterRounds (n + 1)).sink = emitAll (p.blocks p.queue.pending).flatten p.sink := by
  rw [afterRounds, sink_afterRounds (pending_roundAndTake p)]
  exact congrArg RunState.sink (runRound_toRunState p.queue.pending p)

/-- The processor after it was reported that there were too many rounds. -/
def reportLimit (limit : Nat) (p : Processor δ σ) : Processor δ σ :=
  { p with toRunState := p.report (.warning (limitMessage limit)) }

/-- The report makes no difference to a round without grammars. -/
theorem roundAndTake_reportLimit {p : Processor δ σ} (h : p.queue.pending = []) (limit : Nat) :
    (p.reportLimit limit).roundAndTake =
      (p.roundAndTake.1, p.roundAndTake.2.reportLimit limit) := by
  have hreported : (p.reportLimit limit).queue.pending = [] := h
  rw [roundAndTake_of_nil h, roundAndTake_of_nil hreported]
  rfl

/-- What happens at the end of the rounds before the final one. -/
def closeRounds (limit : Nat) (answers : List (List String)) (p : Processor δ σ) : Processor δ σ :=
  if [] ∈ answers then p else p.reportLimit limit

/-- Rounds go on up to the first empty answer, at most as many as there may be. -/
theorem creatingRounds_eq (limit left : Nat) (summary : RoundSummary) (p : Processor δ σ) :
    p.creatingRounds limit left summary =
      let n := waitsFor (p.answers left)
      (⟨summary.rounds + n, summary.created ++ (p.answers n).flatten⟩,
        (p.afterRounds n).closeRounds limit (p.answers left)) := by
  induction left generalizing p summary with
  | zero => simp [creatingRounds, answers, waitsFor, afterRounds, closeRounds, reportLimit]
  | succ left ih =>
      rw [creatingRounds]
      simp only
      cases hnames : p.roundAndTake.1 with
      | nil =>
          simp [answers, hnames, waitsFor_cons, RoundSummary.round, closeRounds, afterRounds]
      | cons name names =>
          have hnext : waitsFor (p.answers (left + 1)) =
              waitsFor (p.roundAndTake.2.answers left) + 1 := by
            rw [answers, hnames, waitsFor_cons]
            rfl
          have hclose (q : Processor δ σ) : q.closeRounds limit (p.answers (left + 1)) =
              q.closeRounds limit (p.roundAndTake.2.answers left) := by
            simp [closeRounds, answers, hnames]
          rw [ih, hnext, hclose, answers, hnames]
          simp only [RoundSummary.round, List.flatten_cons, List.append_assoc, Nat.add_comm 1,
            Nat.add_assoc]
          rfl

/-- The events of a trace without the attempts. -/
def controls (t : Trace δ σ) : List Event :=
  (t.map (·.1)).filter fun
    | .attempt _ => false
    | _ => true

omit [DiagnosticSink δ] [ArtifactStore σ ω] in
theorem controls_append (t u : Trace δ σ) : controls (t ++ u) = controls t ++ controls u := by
  simp [controls]

theorem controls_roundTrace (p : Processor δ σ) : controls p.roundTrace = [.roundEnd] := by
  fun_induction roundTrace p with
  | case1 p => rfl
  | case2 p path queue h s q ih => exact ih

theorem controls_roundAndTakeTrace (p : Processor δ σ) :
    controls p.roundAndTakeTrace = [.roundEnd, .question] := by
  rw [roundAndTakeTrace, controls_append, controls_roundTrace]
  rfl

theorem controls_creatingRoundsTrace (limit left : Nat) (p : Processor δ σ) :
    controls (p.creatingRoundsTrace limit left) =
      (List.replicate (waitsFor (p.answers left)) [.roundEnd, .question]).flatten ++
        if [] ∈ p.answers left then [] else [.limit] := by
  induction left generalizing p with
  | zero => rfl
  | succ left ih =>
      rw [creatingRoundsTrace, controls_append, controls_roundAndTakeTrace, answers, waitsFor_cons]
      cases hnames : p.roundAndTake.1 with
      | nil => simp [controls]
      | cons name names => simp [ih, List.replicate_succ]

theorem closeRounds_concat {answers : List (List String)} {p : Processor δ σ}
    (h : p.queue.pending = []) (limit : Nat) :
    (p.closeRounds limit answers).roundAndTake =
      (p.roundAndTake.1, p.roundAndTake.2.closeRounds limit answers) := by
  unfold closeRounds
  split
  · rfl
  · exact roundAndTake_reportLimit h limit

theorem waitsFor_pos {answers : List (List String)} (h : answers ≠ []) : 0 < waitsFor answers := by
  have hlength := List.length_pos_iff.2 h
  unfold waitsFor
  omega

theorem runRounds_of_answers (maxRounds : Nat) (p : Processor δ σ) :
    p.runRounds maxRounds =
      let limit := max maxRounds 1
      let n := waitsFor (p.answers limit)
      (⟨n + 1, (p.answers (n + 1)).flatten⟩,
        (p.afterRounds (n + 1)).closeRounds limit (p.answers limit)) := by
  have hlimit : p.answers (max maxRounds 1) ≠ [] := by
    apply List.ne_nil_of_length_pos
    rw [length_answers]
    omega
  obtain ⟨n, hn⟩ := Nat.exists_eq_succ_of_ne_zero (waitsFor_pos hlimit).ne'
  have hpending : (p.afterRounds (n + 1)).queue.pending = [] :=
    pending_afterRounds (pending_roundAndTake p) n
  simp only [runRounds, creatingRounds_eq, hn]
  rw [closeRounds_concat hpending, afterRounds_succ (n + 1), answers_concat (n + 1)]
  simp [RoundSummary.round, RoundSummary.empty]

theorem sink_closeRounds (limit : Nat) (answers : List (List String)) (p : Processor δ σ) :
    (p.closeRounds limit answers).sink =
      emitAll (if [] ∈ answers then [] else [.warning (limitMessage limit)]) p.sink := by
  unfold closeRounds
  split <;> rfl

/-- A run has as many rounds as there are answers up to the first empty one, or as the limit allows,
and one more. After each round the store is asked once, and what it answers is what was created. The
limit is reported once, before the final round, if none of the answers up to it is empty, and else
not at all. The answers are those of the store, whatever it says. -/
theorem rounds_follow_answers (maxRounds : Nat) (p : Processor δ σ) :
    let limit := max maxRounds 1
    let first := (p.answers limit).findIdx List.isEmpty + 1
    let count := min first limit + 1
    let isLimited := ∀ names ∈ p.answers limit, names ≠ []
    (p.runRounds maxRounds).1 = ⟨count, (p.answers count).flatten⟩ ∧
      (p.runRounds maxRounds).2.toWorkspace = (p.afterRounds count).toWorkspace ∧
      (p.runRounds maxRounds).2.sink =
        emitAll ((p.blocks p.queue.pending).flatten ++
          if isLimited then [.warning (limitMessage limit)] else []) p.sink ∧
      Steps p (p.runRoundsTrace maxRounds) (p.runRounds maxRounds).2 ∧
      controls (p.runRoundsTrace maxRounds) =
        (List.replicate (min first limit) [.roundEnd, .question]).flatten ++
          (if isLimited then [.limit] else []) ++ [.roundEnd, .question] ∧
      ∀ n, p.answers n = (List.range n).map fun i =>
        (ArtifactStore.takeCreated (p.afterRounds i).runRound.2.store).1 := by
  intro limit first count isLimited
  have hcount : waitsFor (p.answers limit) + 1 = count := by
    rw [waitsFor, length_answers]
  have hlimited {α : Type} (a : α) : (if [] ∈ p.answers limit then [] else [a]) =
      if isLimited then [a] else [] := by
    by_cases h : [] ∈ p.answers limit
    · rw [if_pos h, if_neg fun hall => hall [] h rfl]
    · rw [if_neg h, if_pos (List.forall_mem_ne'.2 h)]
  have hsteps : Steps p (p.runRoundsTrace maxRounds) (p.runRounds maxRounds).2 :=
    Call.trace_steps (.rounds maxRounds) p
  have hrun : p.runRounds maxRounds = (⟨count, (p.answers count).flatten⟩,
      (p.afterRounds count).closeRounds limit (p.answers limit)) := by
    rw [runRounds_of_answers, ← hcount]
  rw [hrun] at hsteps ⊢
  refine ⟨rfl, ?_, ?_, hsteps, ?_, fun n => answers_eq_map n p⟩
  · unfold closeRounds
    split <;> rfl
  · rw [sink_closeRounds, sink_afterRounds_succ, emitAll_append, hlimited]
  · rw [runRoundsTrace, controls_append, controls_creatingRoundsTrace, controls_roundAndTakeTrace,
      hlimited, waitsFor, length_answers]

/-- The store gives prepared answers, although nothing was created. With room for five rounds the
third answer is the last one before the final round; with room for two the limit is reported. -/
theorem prepared_answers_are_followed :
    let p : Processor (List Diagnostic) (ScriptedStore MemoryStore) :=
      ⟨⟨⟨⟨.new [] [], [["x"], ["y", "z"], [], ["x"], []]⟩, .empty⟩, []⟩, .standard, .standard,
        .empty⟩
    (p.runRounds 5).1 = ⟨4, ["x", "y", "z", "x"]⟩ ∧ (p.runRounds 5).2.sink = [] ∧
      (p.runRounds 2).1 = ⟨3, ["x", "y", "z"]⟩ ∧
      (p.runRounds 2).2.sink = [.warning (limitMessage 2)] := by
  intro p
  have hfive : p.answers 5 = [["x"], ["y", "z"], [], ["x"], []] := answers_scripted (by decide)
  have hfour : p.answers 4 = [["x"], ["y", "z"], [], ["x"]] := answers_scripted (by decide)
  have hthree : p.answers 3 = [["x"], ["y", "z"], []] := answers_scripted (by decide)
  have htwo : p.answers 2 = [["x"], ["y", "z"]] := answers_scripted (by decide)
  obtain ⟨hlong, -, hlongSink, -⟩ := rounds_follow_answers 5 p
  obtain ⟨hshort, -, hshortSink, -⟩ := rounds_follow_answers 2 p
  simp only [show max 5 1 = 5 from rfl, show max 2 1 = 2 from rfl, hfive, htwo] at *
  refine ⟨?_, ?_, ?_, ?_⟩
  · exact hlong.trans (by rw [show min _ 5 + 1 = 4 from by decide, hfour]; rfl)
  · exact hlongSink.trans (by decide)
  · exact hshort.trans (by rw [show min _ 2 + 1 = 3 from by decide, hthree]; rfl)
  · exact hshortSink.trans (by decide)

end GrammarForge.Processor
