import GrammarForge.Proofs.Processing.RequestChains
import GrammarForge.Store.Memory
import GrammarForge.Store.Scripted

/-!
# Which grammars a run attempts

The rounds of a run are cut into single steps: an attempt at the next grammar, the end of a round, a
question to the store, a report of the limit. A run of any number of calls is a chain of such steps.
What was attempted so far and what still waits are together, at every point of it, the grammars that
the queue was made with. So the order of the attempts is that of the queue, and there is no second
attempt at an entry, whatever comes of the others.
-/

namespace GrammarForge.Processor

variable {δ σ ω : Type}

/-! ## Traces -/

/-- What a processor does at one point of a run. -/
inductive Event where
  /-- A grammar leaves the queue and is attempted. -/
  | attempt (path : String)
  /-- A round has found the queue empty and is over. -/
  | roundEnd
  /-- The store is asked what was created. -/
  | question
  /-- It is reported that there were too many rounds. -/
  | limit

/-- The events of a run, each with the processor after it. -/
abbrev Trace (δ σ : Type) := List (Event × Processor δ σ)

/-- The grammars that are attempted in a trace, in order. -/
def attempted : Trace δ σ → List String
  | [] => []
  | (.attempt path, _) :: rest => path :: attempted rest
  | _ :: rest => attempted rest

@[simp] theorem attempted_append (t u : Trace δ σ) :
    attempted (t ++ u) = attempted t ++ attempted u := by
  induction t with
  | nil => rfl
  | cons first t ih =>
      obtain ⟨e, p⟩ := first
      cases e <;> simp [attempted, ih]

/-- Whether a round comes to its end in a trace. -/
def EndsRound (t : Trace δ σ) : Prop := ∃ p, (.roundEnd, p) ∈ t

/-- A point of a run at which the events of `t` lie behind. The queue was made with `paths`. -/
structure Accounts (paths : List String) (t : Trace δ σ) (p : Processor δ σ) : Prop where
  /-- Every grammar was attempted in its turn or still waits. -/
  grammars : attempted t ++ p.queue.pending = paths
  popped : p.queue.popped = (attempted t).length
  /-- A round leaves no grammar for the ones after it. -/
  settled : EndsRound t → p.queue.pending = []

namespace Accounts

variable {paths : List String} {t : Trace δ σ} {p q : Processor δ σ}

theorem start (h : p.queue = .ofPaths paths) : Accounts paths [] p where
  grammars := by simp [h, attempted, GrammarQueue.ofPaths]
  popped := by simp [h, attempted, GrammarQueue.ofPaths]
  settled := by
    rintro ⟨q, hq⟩
    cases hq

/-- An attempt moves a grammar from those that wait to those that were attempted. -/
theorem attempt {path : String} {queue : GrammarQueue} (h : Accounts paths t p)
    (hpop : p.queue.pop? = some (path, queue)) (hqueue : q.queue = queue) :
    Accounts paths (t ++ [(.attempt path, q)]) q := by
  obtain ⟨hpending, hcount⟩ : p.queue.pending = path :: q.queue.pending ∧
      q.queue.popped = p.queue.popped + 1 := by
    unfold GrammarQueue.pop? at hpop
    split at hpop
    · cases hpop
    · rename_i hp
      cases hpop
      exact ⟨by rw [hp, hqueue], by rw [hqueue]⟩
  have hgrammars := h.grammars
  rw [hpending] at hgrammars
  refine ⟨by simpa [attempted] using hgrammars, by simp [attempted, hcount, h.popped], ?_⟩
  rintro ⟨r, hr⟩
  have hends : EndsRound t := ⟨r, by simpa using hr⟩
  simp [h.settled hends] at hpending

/-- What is no attempt leaves the queue as it is, and a round ends when the queue is empty. -/
theorem keep {e : Event} (h : Accounts paths t p) (hqueue : q.queue = p.queue)
    (hevent : attempted [(e, q)] = []) (hend : e = .roundEnd → p.queue.pending = []) :
    Accounts paths (t ++ [(e, q)]) q := by
  refine ⟨by simpa [hevent, hqueue] using h.grammars, by simpa [hevent, hqueue] using h.popped, ?_⟩
  rintro ⟨r, hr⟩
  rw [hqueue]
  rcases List.mem_append.1 hr with hr | hr
  · exact h.settled ⟨r, hr⟩
  · obtain ⟨rfl, -⟩ : Event.roundEnd = e ∧ r = q := by simpa using hr
    exact hend rfl

end Accounts

/-! ## Steps -/

variable [DiagnosticSink δ] [ArtifactStore σ ω]

/-- What an event makes of a processor. -/
inductive Step : Processor δ σ → Event → Processor δ σ → Prop
  | attempt {p : Processor δ σ} {path : String} {queue : GrammarQueue}
      (h : p.queue.pop? = some (path, queue)) :
      Step p (.attempt path)
        { p with
          toRunState := p.toRunState.attemptReporting p.environment p.definition path
          queue }
  | roundEnd {p : Processor δ σ} (h : p.queue.pop? = none) : Step p .roundEnd p
  | question (p : Processor δ σ) : Step p .question p.takeCreated.2
  | limit (p : Processor δ σ) (count : Nat) :
      Step p .limit { p with toRunState := p.report (.warning (limitMessage count)) }

/-- A trace leads from one processor to another, step by step. -/
inductive Steps : Processor δ σ → Trace δ σ → Processor δ σ → Prop
  | nil (p : Processor δ σ) : Steps p [] p
  | cons {p q r : Processor δ σ} {e : Event} {t : Trace δ σ} :
      Step p e q → Steps q t r → Steps p ((e, q) :: t) r

namespace Steps

variable {p q r : Processor δ σ} {t u : Trace δ σ}

theorem single {e : Event} (h : Step p e q) : Steps p [(e, q)] q := .cons h (.nil q)

theorem append (h : Steps p t q) (hu : Steps q u r) : Steps p (t ++ u) r := by
  induction h with
  | nil => exact hu
  | cons hstep _ ih => exact .cons hstep (ih hu)

theorem split (h : Steps p (t ++ u) r) : ∃ q, Steps p t q ∧ Steps q u r := by
  induction t generalizing p with
  | nil => exact ⟨p, .nil p, h⟩
  | cons first t ih =>
      cases h with
      | cons hstep hrest =>
          obtain ⟨q, ht, hu⟩ := ih hrest
          exact ⟨q, .cons hstep ht, hu⟩

end Steps

section Account

variable {paths : List String} {t u : Trace δ σ} {p q : Processor δ σ}

theorem Accounts.step {e : Event} (h : Accounts paths t p) (hstep : Step p e q) :
    Accounts paths (t ++ [(e, q)]) q := by
  cases hstep with
  | attempt hpop => exact h.attempt hpop rfl
  | roundEnd hpop =>
      have hempty : p.queue.pending = [] := by
        unfold GrammarQueue.pop? at hpop
        split at hpop
        · assumption
        · cases hpop
      exact h.keep rfl rfl fun _ => hempty
  | question => exact h.keep rfl rfl fun hend => by cases hend
  | limit => exact h.keep rfl rfl fun hend => by cases hend

/-- Every point of a run keeps the account. -/
theorem Accounts.steps (h : Accounts paths t p) (hsteps : Steps p u q) :
    Accounts paths (t ++ u) q := by
  induction hsteps generalizing t with
  | nil => rwa [List.append_nil]
  | cons hstep _ ih =>
      have hrest := ih (h.step hstep)
      rwa [List.append_assoc, List.singleton_append] at hrest

end Account

/-! ## The steps of a call -/

/-- The steps of a round. -/
def roundTrace (p : Processor δ σ) : Trace δ σ :=
  match _h : p.queue.pop? with
  | none => [(.roundEnd, p)]
  | some (path, queue) =>
    let s := p.toRunState.attemptReporting p.environment p.definition path
    let q : Processor δ σ := { p with toRunState := s, queue }
    (.attempt path, q) :: q.roundTrace
termination_by p.queue.pending.length
decreasing_by exact GrammarQueue.length_lt_of_pop? _h

/-- The steps of a round and of the question after it. -/
def roundAndTakeTrace (p : Processor δ σ) : Trace δ σ :=
  p.roundTrace ++ [(.question, p.roundAndTake.2)]

/-- The steps of the rounds up to the first that creates nothing. -/
def creatingRoundsTrace (limit left : Nat) (p : Processor δ σ) : Trace δ σ :=
  match left with
  | 0 => [(.limit, { p with toRunState := p.report (.warning (limitMessage limit)) })]
  | left + 1 =>
    p.roundAndTakeTrace ++
      if p.roundAndTake.1.isEmpty then [] else creatingRoundsTrace limit left p.roundAndTake.2

/-- The steps of a run of rounds. -/
def runRoundsTrace (maxRounds : Nat) (p : Processor δ σ) : Trace δ σ :=
  let limit := max maxRounds 1
  p.creatingRoundsTrace limit limit ++
    (p.creatingRounds limit limit .empty).2.roundAndTakeTrace

/-- What may be called on a processor, any number of times. -/
inductive Call where
  | round
  | rounds (maxRounds : Nat)

/-- The processor after a call. -/
def Call.run : Call → Processor δ σ → Processor δ σ
  | .round, p => p.runRound.2
  | .rounds maxRounds, p => (p.runRounds maxRounds).2

def Call.trace : Call → Processor δ σ → Trace δ σ
  | .round, p => p.roundTrace
  | .rounds maxRounds, p => p.runRoundsTrace maxRounds

/-- The processor after calls that are made one after the other. -/
def runCalls : List Call → Processor δ σ → Processor δ σ
  | [], p => p
  | call :: rest, p => runCalls rest (call.run p)

def callsTrace : List Call → Processor δ σ → Trace δ σ
  | [], _ => []
  | call :: rest, p => call.trace p ++ callsTrace rest (call.run p)

theorem roundTrace_steps (p : Processor δ σ) : Steps p p.roundTrace p.runRound.2 := by
  change Steps p p.roundTrace p.drain
  fun_induction roundTrace p with
  | case1 p h =>
      rw [drain, h]
      exact .single (.roundEnd h)
  | case2 p path queue h s q ih =>
      rw [drain, h]
      exact .cons (.attempt h) ih

theorem roundAndTakeTrace_steps (p : Processor δ σ) :
    Steps p p.roundAndTakeTrace p.roundAndTake.2 :=
  (roundTrace_steps p).append (.single (.question p.runRound.2))

theorem creatingRoundsTrace_steps (limit left : Nat) (summary : RoundSummary)
    (p : Processor δ σ) :
    Steps p (p.creatingRoundsTrace limit left) (p.creatingRounds limit left summary).2 := by
  induction left generalizing p summary with
  | zero => exact .single (.limit p limit)
  | succ left ih =>
      rw [creatingRoundsTrace, creatingRounds]
      have hround := roundAndTakeTrace_steps p
      by_cases hempty : p.roundAndTake.1.isEmpty
      · simpa [hempty] using hround
      · simpa [hempty] using hround.append (ih (summary.round p.roundAndTake.1) p.roundAndTake.2)

/-- The trace of a call leads to what the call returns. -/
theorem Call.trace_steps (call : Call) (p : Processor δ σ) :
    Steps p (call.trace p) (call.run p) := by
  cases call with
  | round => exact roundTrace_steps p
  | rounds maxRounds =>
      exact (creatingRoundsTrace_steps (max maxRounds 1) (max maxRounds 1) .empty p).append
        (roundAndTakeTrace_steps _)

theorem callsTrace_steps (calls : List Call) (p : Processor δ σ) :
    Steps p (callsTrace calls p) (runCalls calls p) := by
  induction calls generalizing p with
  | nil => exact .nil p
  | cons call rest ih => exact (call.trace_steps p).append (ih (call.run p))

theorem endsRound_roundTrace (p : Processor δ σ) : EndsRound p.roundTrace := by
  fun_induction roundTrace p with
  | case1 p => exact ⟨p, List.mem_singleton_self _⟩
  | case2 p path queue h s q ih =>
      obtain ⟨r, hr⟩ := ih
      exact ⟨r, List.mem_cons_of_mem _ hr⟩

/-- Every call runs a round to its end. -/
theorem Call.endsRound_trace (call : Call) (p : Processor δ σ) : EndsRound (call.trace p) := by
  cases call with
  | round => exact endsRound_roundTrace p
  | rounds maxRounds =>
      obtain ⟨r, hr⟩ := endsRound_roundTrace
        (p.creatingRounds (max maxRounds 1) (max maxRounds 1) .empty).2
      exact ⟨r, List.mem_append_right _ (List.mem_append_left _ hr)⟩

theorem endsRound_callsTrace {calls : List Call} (hcalls : calls ≠ []) (p : Processor δ σ) :
    EndsRound (callsTrace calls p) := by
  obtain ⟨call, rest, rfl⟩ := List.exists_cons_of_ne_nil hcalls
  obtain ⟨r, hr⟩ := call.endsRound_trace p
  exact ⟨r, List.mem_append_left _ hr⟩

/-! ## Runs -/

/-- Any number of rounds but none at all does what one does. -/
theorem iterate_runRound (n : Nat) (p : Processor δ σ) :
    (fun q : Processor δ σ => q.runRound.2)^[n + 1] p = p.runRound.2 := by
  induction n with
  | zero => rfl
  | succ n ih =>
      rw [Function.iterate_succ_apply', ih]
      exact drain_of_nil (drain_pending p)

section Runs

variable {paths : List String} {p : Processor δ σ}

/-- Once something was called, all grammars of the queue have been attempted. -/
theorem attempted_callsTrace (hqueue : p.queue = .ofPaths paths) {calls : List Call}
    (hcalls : calls ≠ []) : attempted (callsTrace calls p) = paths := by
  have hlast : Accounts paths (callsTrace calls p) (runCalls calls p) :=
    (Accounts.start hqueue).steps (callsTrace_steps calls p)
  have hempty := hlast.settled (endsRound_callsTrace hcalls p)
  have hgrammars := hlast.grammars
  rwa [hempty, List.append_nil] at hgrammars

/-- At every point of a run of calls the grammars that the queue was made with are those that were
attempted, in order, and those that still wait. The first call attempts all of them, and from its
first round on there is nothing to do in a round. -/
theorem attempted_once_in_order (hqueue : p.queue = .ofPaths paths) (calls : List Call) :
    (∀ before after, callsTrace calls p = before ++ after →
      ∃ q, Steps p before q ∧ Steps q after (runCalls calls p) ∧
        q.queue.popped + q.queue.pending.length = paths.length ∧
        q.queue.pending <:+ paths ∧
        attempted before ++ q.queue.pending = paths ∧
        (EndsRound before → q.queue.pending = [] ∧ q.runRound.2 = q)) ∧
    (calls ≠ [] → attempted (callsTrace calls p) = paths) ∧
    ∀ n, (fun q : Processor δ σ => q.runRound.2)^[n + 1] (runCalls calls p) =
      (runCalls calls p).runRound.2 := by
  refine ⟨fun before after htrace => ?_, fun hcalls => attempted_callsTrace hqueue hcalls,
    fun n => iterate_runRound n _⟩
  have hall := callsTrace_steps calls p
  rw [htrace] at hall
  obtain ⟨q, hbefore, hafter⟩ := hall.split
  have hpoint : Accounts paths before q := (Accounts.start hqueue).steps hbefore
  refine ⟨q, hbefore, hafter, ?_, ⟨attempted before, hpoint.grammars⟩, hpoint.grammars,
    fun hend => ?_⟩
  · rw [hpoint.popped, ← List.length_append, hpoint.grammars]
  · have hempty := hpoint.settled hend
    exact ⟨hempty, drain_of_nil hempty⟩

/-- A grammar, a text that is none, and a file of another kind. -/
def mixedFiles : FileSystem :=
  ⟨["w"], [(["w"], .directory),
    (["w", "a.bnf"], .file (encodeText "\x7b parserClass = P \x7d a ::= B")),
    (["w", "b.bnf"], .file (encodeText "a ::= (")), (["w", "n.txt"], .file [])], by decide⟩

/-- The store says in every round that something was created, and one grammar is listed twice. The
others fail, each at a stage of its own. -/
theorem attempted_once_with_fresh_names :
    let paths := ["a.bnf", "b.bnf", "c/g.bnf", "n.txt", "d.bnf", "a.bnf"]
    let p : Processor (List Diagnostic) (ScriptedStore MemoryStore) :=
      .initStandard [(Options.grammarsKey, joinPaths paths)]
        ⟨⟨⟨.new [] [], [["x"], ["y"], ["z"]]⟩, mixedFiles⟩, []⟩
    let calls := [.rounds 2, .round, .rounds 0]
    p.queue = .ofPaths paths ∧ attempted (callsTrace calls p) = paths ∧
      (runCalls calls p).sink.map (·.message) =
        ["Not a grammar file: /w/b.bnf (unclosed '(')",
          "failed to resolve directory 'c': No such file or directory (os error 2)",
          "Not a grammar file: /w/n.txt",
          "failed to read 'd.bnf': No such file or directory (os error 2)", limitMessage 2] := by
  intro paths p calls
  have hqueue : p.queue = .ofPaths paths := by decide +kernel
  have hrun := attempted_once_in_order hqueue calls
  exact ⟨hqueue, hrun.2.1 (by simp [calls]), by decide +kernel⟩

end Runs

end GrammarForge.Processor
