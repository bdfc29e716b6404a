import GrammarForge.Proofs.Store.DirectoryFiles
import GrammarForge.Proofs.Store.Sessions

/-!
# Discarded requests

A request for an artifact that is there is answered by a sink that drops what it gets. Such a sink
stays what it is: whatever else is requested and written before and after, using it touches neither
the store nor the file system. Requests here give names as texts, which may have blanks around them
or be no names at all.
-/

namespace GrammarForge

/-- One use of what hands out sinks for artifacts. -/
inductive EmissionStep where
  | request (name : String)
  | write (sink : Nat) (bytes : Bytes)
  | flush (sink : Nat)
  | close (sink : Nat)

/-- The sink that a step uses, if it uses one. -/
def EmissionStep.sink? : EmissionStep → Option Nat
  | request _ => none
  | write i _ => some i
  | flush i => some i
  | close i => some i

namespace Session

variable {σ ω : Type} [ArtifactStore σ ω]

/-- Request an artifact by a text. -/
def requestText (name : String) (s : Session σ ω) : SessionAnswer × Session σ ω :=
  match s.toWorkspace.request name with
  | (.error e, w) => (.failed e, { s with toWorkspace := w, requested := s.requested + 1 })
  | (.ok sink, w) =>
    (.decided sink.decision,
      ⟨w, s.requested + 1, Function.update s.sinks s.requested (some sink)⟩)

def emit (s : Session σ ω) : EmissionStep → Session σ ω
  | .request name => (s.requestText name).2
  | .write i bytes => (s.writeStep i bytes).2
  | .flush i => (s.flushStep i).2
  | .close i => s.closeStep i

def emitAll (s : Session σ ω) (steps : List EmissionStep) : Session σ ω := steps.foldl emit s

/-- A sink was handed out, and it drops what it gets. -/
structure IsDiscarded (s : Session σ ω) (i : Nat) : Prop where
  requested : i < s.requested
  drops : ∀ sink, s.sinks i = some sink → sink = .discard

variable {s : Session σ ω} {i : Nat}

omit [ArtifactStore σ ω] in
/-- What becomes of one sink when a sink is handed out or used. -/
theorem IsDiscarded.update (h : s.IsDiscarded i) {w : Workspace σ} {requested j : Nat}
    {next : Option (ArtifactSink ω)} (hrequested : s.requested ≤ requested)
    (hnext : j = i → ∀ sink, next = some sink → sink = .discard) :
    IsDiscarded ⟨w, requested, Function.update s.sinks j next⟩ i := by
  refine ⟨Nat.lt_of_lt_of_le h.requested hrequested, fun sink hsink => ?_⟩
  by_cases hj : j = i
  · subst hj
    exact hnext rfl sink ((Function.update_self j next s.sinks).symm.trans hsink)
  · exact h.drops sink ((Function.update_of_ne (Ne.symm hj) next s.sinks).symm.trans hsink)

omit [ArtifactStore σ ω] in
/-- A sink is used by putting what has become of it in its place. -/
theorem IsDiscarded.replace (h : s.IsDiscarded i) {w : Workspace σ} {j : Nat}
    {sink next : ArtifactSink ω} (hsink : s.sinks j = some sink)
    (hnext : sink = .discard → next = .discard) :
    IsDiscarded ⟨w, s.requested, Function.update s.sinks j (some next)⟩ i := by
  refine h.update le_rfl fun hj found hfound => ?_
  rw [← Option.some.inj hfound]
  exact hnext (h.drops sink (hj ▸ hsink))

/-- A sink of its own is handed out for a request, so the others stay what they are. -/
theorem IsDiscarded.requestText (h : s.IsDiscarded i) (name : String) :
    (s.requestText name).2.IsDiscarded i := by
  unfold Session.requestText
  split
  · exact ⟨Nat.lt_succ_of_lt h.requested, h.drops⟩
  · exact h.update (Nat.le_succ _) fun hnew => absurd hnew (Nat.ne_of_gt h.requested)

theorem IsDiscarded.emit (h : s.IsDiscarded i) (step : EmissionStep) :
    (s.emit step).IsDiscarded i := by
  cases step with
  | request name => exact h.requestText name
  | write j bytes =>
      simp only [Session.emit, writeStep]
      cases hsink : s.sinks j with
      | none => exact h
      | some sink =>
          refine h.replace hsink ?_
          rintro rfl
          rfl
  | flush j =>
      simp only [Session.emit, flushStep]
      cases hsink : s.sinks j with
      | none => exact h
      | some sink =>
          refine h.replace hsink ?_
          rintro rfl
          rfl
  | close j =>
      simp only [Session.emit, closeStep]
      cases hsink : s.sinks j with
      | none => exact h
      | some sink => exact h.update le_rfl fun _ next hnext => nomatch hnext

theorem IsDiscarded.emitAll (h : s.IsDiscarded i) (steps : List EmissionStep) :
    (s.emitAll steps).IsDiscarded i := by
  induction steps generalizing s with
  | nil => exact h
  | cons step rest ih => exact ih (h.emit step)

/-- To use a sink that drops what it gets changes neither the store nor the files. -/
theorem IsDiscarded.emit_toWorkspace (h : s.IsDiscarded i) {step : EmissionStep}
    (hstep : step.sink? = some i) : (s.emit step).toWorkspace = s.toWorkspace := by
  cases hsink : s.sinks i with
  | none =>
      cases step with
      | request name => cases hstep
      | write | flush | close =>
          cases hstep
          simp only [Session.emit, writeStep, flushStep, closeStep, hsink]
  | some sink =>
      cases h.drops sink hsink
      cases step with
      | request name => cases hstep
      | write | flush | close =>
          cases hstep
          simp only [Session.emit, writeStep, flushStep, closeStep, hsink]
          rfl

/-- What the store contains is discarded, and nothing else. -/
theorem requestText_discard_iff {name : String} :
    (s.requestText name).1 = .decided .discard ↔
      ArtifactStore.contains name s.toWorkspace = true := by
  cases hcontains : ArtifactStore.contains name s.toWorkspace with
  | true =>
      have hrequest := s.toWorkspace.request_of_contains hcontains
      unfold requestText
      rw [hrequest]
      exact iff_of_true rfl rfl
  | false =>
      have hdecision : s.toWorkspace.decisionFor name = .write :=
        if_neg (ne_true_of_eq_false hcontains)
      refine iff_of_false ?_ Bool.false_ne_true
      simp only [requestText, Workspace.request, hdecision]
      cases ArtifactStore.create name s.toWorkspace with
      | mk result w =>
          cases result with
          | error e =>
              intro h
              cases h
          | ok writer =>
              intro h
              cases h

/-- A request that is discarded changes neither the store nor the files. -/
theorem requestText_of_discard {name : String}
    (h : (s.requestText name).1 = .decided .discard) :
    (s.requestText name).2.toWorkspace = s.toWorkspace ∧
      (s.requestText name).2.IsDiscarded s.requested := by
  have hrequest := s.toWorkspace.request_of_contains (requestText_discard_iff.1 h)
  unfold requestText
  rw [hrequest]
  refine ⟨rfl, Nat.lt_succ_self _, fun sink hsink => ?_⟩
  exact Option.some.inj (hsink.symm.trans (Function.update_self s.requested _ s.sinks))

end Session

namespace DirectoryStore

/-- What is there was created, or one of the source roots has a file for it. -/
theorem contains_iff {w : Workspace DirectoryStore} {name : String} :
    ArtifactStore.contains name w = true ↔ name ∈ w.store.created ∨ ∃ path,
      relativePath name = .ok path ∧
        ∃ root ∈ w.store.sourceRoots, w.files.isFileAt (Path.join root path) = true := by
  change (w.store.created.contains name || w.store.isHandWritten name w.files) = true ↔ _
  rw [Bool.or_eq_true_iff, List.contains_iff_mem, isHandWritten]
  cases relativePath name with
  | error e => simp
  | ok path => simp

end DirectoryStore

end GrammarForge
