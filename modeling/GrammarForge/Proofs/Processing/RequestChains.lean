import GrammarForge.Proofs.Processing.FirstRequests

/-!
# Requests one after the other

The requests of a round form a chain: each of them finds the workspace as the one before has left
it, and nothing else touches the workspace. So what every single request preserves, a round
preserves. After the first round the queue is empty, and a run adds nothing to what that round did.
-/

namespace GrammarForge

open Generation

variable {δ σ ω : Type} [DiagnosticSink δ] [ArtifactStore σ ω]

namespace Generation.Requested

/-- The workspace that a request leaves behind. -/
def after (r : Requested (RunState δ σ)) : Workspace σ :=
  (RunState.host.emit r.artifact r.state).2.toWorkspace

/-- Whether a request makes a new artifact. -/
def creates (r : Requested (RunState δ σ)) : Bool :=
  match (r.state.toWorkspace.request r.artifact.name.text).1 with
  | .ok (.artifact _) => true
  | _ => false

/-- A request that makes an artifact does not fail. -/
theorem emit_of_creates [SteadyStore σ] {r : Requested (RunState δ σ)} (h : r.creates = true) :
    ∃ s, RunState.host.emit r.artifact r.state = (.ok (), s) := by
  have hgranted : r.state.toWorkspace.grants r.artifact.name.text = true := by
    unfold creates at h
    unfold Workspace.grants
    split at h
    · rename_i hrequest
      rw [hrequest]
      rfl
    · cases h
  rw [← RunState.emit_isOk] at hgranted
  cases hemit : RunState.host.emit r.artifact r.state with
  | mk result s =>
      rw [hemit] at hgranted
      cases result with
      | error e => cases hgranted
      | ok => exact ⟨s, rfl⟩

/-- What is new and does not fail is made. -/
theorem creates_of_emit {r : Requested (RunState δ σ)} {t : RunState δ σ}
    (hemit : RunState.host.emit r.artifact r.state = (.ok (), t))
    (hnew : ArtifactStore.contains r.artifact.name.text r.state.toWorkspace = false) :
    r.creates = true := by
  have hgrants := RunState.grants_of_emit hemit
  have hdecision : r.state.toWorkspace.decisionFor r.artifact.name.text = .write :=
    if_neg (ne_true_of_eq_false hnew)
  unfold Workspace.grants Workspace.request at hgrants
  unfold creates Workspace.request
  simp only [hdecision] at hgrants ⊢
  cases hcreate : (ArtifactStore.create r.artifact.name.text r.state.toWorkspace).1 with
  | error e => simp [hcreate, Except.map, Except.isOk, Except.toBool] at hgrants
  | ok writer => rfl

/-- What is there is not made. -/
theorem creates_of_contains {r : Requested (RunState δ σ)}
    (h : ArtifactStore.contains r.artifact.name.text r.state.toWorkspace = true) :
    r.creates = false := by
  rw [creates, (RunState.emit_of_contains (a := r.artifact) (s := r.state) h).1]

end Generation.Requested

/-- Every request is made in the workspace that the one before it leaves behind. -/
inductive Linked : Workspace σ → List (Requested (RunState δ σ)) → Workspace σ → Prop
  | nil {w : Workspace σ} : Linked w [] w
  | cons {w final : Workspace σ} {r : Requested (RunState δ σ)}
      {rest : List (Requested (RunState δ σ))} :
      r.state.toWorkspace = w → Linked r.after rest final → Linked w (r :: rest) final

namespace Linked

variable {w middle final : Workspace σ} {rs more : List (Requested (RunState δ σ))}

theorem append (h : Linked w rs middle) (hmore : Linked middle more final) :
    Linked w (rs ++ more) final := by
  induction h with
  | nil => exact hmore
  | cons hr _ ih => exact .cons hr (ih hmore)

theorem split (h : Linked w (rs ++ more) final) :
    ∃ middle, Linked w rs middle ∧ Linked middle more final := by
  induction rs generalizing w with
  | nil => exact ⟨w, .nil, h⟩
  | cons r rest ih =>
      cases h with
      | cons hr hrest =>
          obtain ⟨middle, hfirst, hmore⟩ := ih hrest
          exact ⟨middle, .cons hr hfirst, hmore⟩

theorem head {r : Requested (RunState δ σ)} (h : Linked w (r :: rs) final) :
    r.state.toWorkspace = w := by
  cases h with
  | cons hr _ => exact hr

/-- What holds of the requests so far and the workspace, and goes on to hold with each request,
holds in the end. -/
theorem invariant {motive : List (Requested (RunState δ σ)) → Workspace σ → Prop}
    (hstep : ∀ before r, motive before r.state.toWorkspace → motive (before ++ [r]) r.after)
    (h : Linked w rs final) (hw : motive [] w) : motive rs final := by
  have hfrom : ∀ before, motive before w → motive (before ++ rs) final := by
    clear hw
    induction h with
    | nil => exact fun before hbefore => by simpa using hbefore
    | cons hr _ ih =>
        subst hr
        intro before hbefore
        have hrest := ih _ (hstep before _ hbefore)
        rwa [List.append_assoc, List.singleton_append] at hrest
  exact hfrom [] hw

end Linked

namespace RunState

variable (environment : Environment) (definition : ParserDefinition)

theorem requests_eq {path : String} {s : RunState δ σ} {p : Plan}
    (h : Attempt.planOf environment definition s.files path = .ok p) :
    s.requests environment definition path = p.requests host s := by
  unfold requests
  cases hplan : Attempt.planOf environment definition s.files path with
  | error e =>
      rw [hplan] at h
      cases h
  | ok q =>
      rw [hplan] at h
      cases h
      rfl

theorem emitAll_linked (artifacts : List Artifact) (s : RunState δ σ) :
    Linked s.toWorkspace (host.requests artifacts s) (host.emitAll artifacts s).2.toWorkspace := by
  induction artifacts generalizing s with
  | nil => exact .nil
  | cons a rest ih =>
      have hlink : ∀ {more : List (Requested (RunState δ σ))} {final : Workspace σ},
          Linked (host.emit a s).2.toWorkspace more final →
          Linked s.toWorkspace (⟨a, s⟩ :: more) final := fun hmore => .cons rfl hmore
      simp only [Host.requests, Host.emitAll]
      cases hemit : host.emit a s with
      | mk result s' =>
          rw [hemit] at hlink
          cases result with
          | error e => exact hlink .nil
          | ok => exact hlink (ih s')

theorem attemptReporting_linked (path : String) (s : RunState δ σ) :
    Linked s.toWorkspace (s.requests environment definition path)
      (s.attemptReporting environment definition path).toWorkspace := by
  rw [attemptReporting_eq]
  unfold requests
  cases hplan : Attempt.planOf environment definition s.files path with
  | error e =>
      rw [attempt_of_error environment definition hplan]
      exact .nil
  | ok p =>
      rw [attempt_of_plan environment definition hplan]
      simp only [Plan.requests, Plan.run, foldl_warn]
      cases p.artifacts with
      | error e => exact .nil
      | ok artifacts =>
          exact emitAll_linked artifacts
            (⟨s.toWorkspace, DiagnosticSink.emitAll (p.warnings.map .warning) s.sink⟩ :
              RunState δ σ)

theorem foldl_linked (paths : List String) (s : RunState δ σ) :
    Linked s.toWorkspace (s.requestsOfAll environment definition paths)
      (paths.foldl (fun s path => s.attemptReporting environment definition path)
        s).toWorkspace := by
  induction paths generalizing s with
  | nil => exact .nil
  | cons path rest ih =>
      rw [requestsOfAll, List.foldl_cons]
      exact (attemptReporting_linked environment definition path s).append (ih _)

end RunState

namespace Processor

theorem runRound_linked (p : Processor δ σ) :
    Linked p.toWorkspace p.roundRequests p.runRound.2.toWorkspace := by
  change Linked _ _ p.drain.toRunState.toWorkspace
  rw [drain_toRunState]
  exact RunState.foldl_linked p.environment p.definition p.queue.pending p.toRunState

theorem drain_pending (p : Processor δ σ) : p.drain.queue.pending = [] := by
  fun_induction drain p with
  | case1 p h =>
      obtain ⟨s, e, d, ⟨pending, popped⟩⟩ := p
      cases pending with
      | nil => rfl
      | cons path rest => simp at h
  | case2 p path queue h s ih => exact ih

theorem drain_of_nil {p : Processor δ σ} (h : p.queue.pending = []) : p.drain = p := by
  obtain ⟨s, e, d, ⟨pending, popped⟩⟩ := p
  subst h
  rw [drain]
  rfl

/-- A processor for which another round changes nothing. -/
structure IsSettled (p : Processor δ σ) : Prop where
  pending : p.queue.pending = []
  takeCreated : ArtifactStore.takeCreated p.store = ([], p.store)

theorem IsSettled.roundAndTake {p : Processor δ σ} (h : p.IsSettled) :
    p.roundAndTake = ([], p) := by
  have hround : p.runRound.2 = p := drain_of_nil h.pending
  rw [Processor.roundAndTake, hround, Processor.takeCreated, Workspace.takeCreated, h.takeCreated]

theorem IsSettled.creatingRounds {p : Processor δ σ} (h : p.IsSettled) (limit left : Nat)
    (summary : RoundSummary) : (p.creatingRounds limit left summary).2.IsSettled ∧
      (p.creatingRounds limit left summary).1.created = summary.created ∧
      (p.creatingRounds limit left summary).2.toWorkspace = p.toWorkspace := by
  cases left with
  | zero => exact ⟨⟨h.pending, h.takeCreated⟩, rfl, rfl⟩
  | succ left =>
      simp only [Processor.creatingRounds, h.roundAndTake]
      exact ⟨h, List.append_nil _, rfl⟩

/-- A run does what its first round does, and then asks for what was created. -/
theorem runRounds_eq (htake : ∀ s : σ, ArtifactStore.takeCreated (ArtifactStore.takeCreated s).2 =
      ([], (ArtifactStore.takeCreated s).2)) (maxRounds : Nat) (p : Processor δ σ) :
    (p.runRounds maxRounds).1.created = (ArtifactStore.takeCreated p.runRound.2.store).1 ∧
      (p.runRounds maxRounds).2.toWorkspace = p.runRound.2.toWorkspace.takeCreated.2 := by
  have hfirst : p.roundAndTake.2.IsSettled := ⟨drain_pending p, htake _⟩
  obtain ⟨left, hleft⟩ : ∃ left, max maxRounds 1 = left + 1 := ⟨max maxRounds 1 - 1, by omega⟩
  obtain ⟨hsettled, hcreated, hworkspace⟩ :
      (p.creatingRounds (left + 1) (left + 1) .empty).2.IsSettled ∧
      (p.creatingRounds (left + 1) (left + 1) .empty).1.created = p.roundAndTake.1 ∧
      (p.creatingRounds (left + 1) (left + 1) .empty).2.toWorkspace =
        p.roundAndTake.2.toWorkspace := by
    rw [Processor.creatingRounds]
    simp only
    split
    · exact ⟨hfirst, rfl, rfl⟩
    · exact hfirst.creatingRounds ..
  simp only [runRounds, hleft, hsettled.roundAndTake]
  refine ⟨?_, hworkspace⟩
  change (p.creatingRounds (left + 1) (left + 1) .empty).1.created ++ [] = _
  rw [List.append_nil, hcreated]
  rfl

end Processor

end GrammarForge
