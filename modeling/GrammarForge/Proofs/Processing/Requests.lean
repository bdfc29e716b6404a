import GrammarForge.Proofs.Processing.Reports
import GrammarForge.Proofs.Store.MemoryHistory

/-!
# Requests

The artifacts that are requested in a run, each with the state in which it is. An attempt requests
the types unit first, and the parser only when that one could be written. To a store in memory a run
is the history of its requests, whatever grammars they come from.
-/

namespace GrammarForge

/-! ## Which requests are made -/

namespace Generation

variable {σ ω : Type}

/-- An artifact that is requested, and the state in which it is. -/
structure Requested (σ : Type) where
  artifact : Artifact
  state : σ

/-- The requests that are made when artifacts are emitted in order. -/
def Host.requests (host : Host σ ω) : List Artifact → σ → List (Requested σ)
  | [], _ => []
  | a :: rest, s =>
    ⟨a, s⟩ ::
      match host.emit a s with
      | (.error _, _) => []
      | (.ok (), s) => host.requests rest s

/-- The requests that are made when a plan is carried out. -/
def Plan.requests (host : Host σ ω) (p : Plan) (s : σ) : List (Requested σ) :=
  match p.artifacts with
  | .error _ => []
  | .ok artifacts =>
    host.requests artifacts (p.warnings.foldl (fun s text => host.warn text s) s)

/-- Emission is what the requests make of the state, one after the other. -/
theorem Host.emitAll_state (host : Host σ ω) (artifacts : List Artifact) (s : σ) :
    (host.emitAll artifacts s).2 =
      (host.requests artifacts s).foldl (fun s r => (host.emit r.artifact s).2) s := by
  induction artifacts generalizing s with
  | nil => rfl
  | cons a rest ih =>
      simp only [emitAll, requests, List.foldl_cons]
      cases hemit : host.emit a s with
      | mk result s' =>
          cases result with
          | error e => rfl
          | ok => exact ih s'

/-- A grammar with rules has two artifacts if its names are valid. -/
theorem Request.plan_artifacts {r : Request} {parser types : LogicalName}
    (hrules : r.grammar.rules.isEmpty = false) (hparser : r.parserName = .ok parser)
    (htypes : r.typesName parser = .ok types) :
    ∃ a b, r.plan.artifacts = .ok [a, b] ∧ a.name = types ∧ b.name = parser := by
  have hplan : r.plan.artifacts = r.artifacts (Analysis.ofGrammar r.grammar) := by
    simp only [Request.plan, hrules]
    rfl
  rw [hplan, Request.artifacts, hparser]
  change ∃ a b, (r.typesName parser >>= _) = _ ∧ _
  rw [htypes]
  exact ⟨_, _, rfl, rfl, rfl⟩

end Generation

open Generation

/-- Whether a request is granted: the artifact may be written, or it is there already. -/
def Workspace.grants {σ ω : Type} [ArtifactStore σ ω] (name : String) (w : Workspace σ) : Bool :=
  (w.request name).1.isOk


/-! ## Requests and histories -/

/-- The names and texts of requests. -/
def historyOf {σ : Type} (rs : List (Requested σ)) : List (String × Bytes) :=
  rs.map fun r => (r.artifact.name.text, encodeText r.artifact.text)

@[simp] theorem historyOf_nil {σ : Type} : historyOf ([] : List (Requested σ)) = [] := rfl

@[simp] theorem historyOf_cons {σ : Type} (r : Requested σ) (rs : List (Requested σ)) :
    historyOf (r :: rs) =
      (r.artifact.name.text, encodeText r.artifact.text) :: historyOf rs := rfl

@[simp] theorem historyOf_append {σ : Type} (rs more : List (Requested σ)) :
    historyOf (rs ++ more) = historyOf rs ++ historyOf more := List.map_append

section History

variable {δ : Type} {known refused : List String} {history : List (String × Bytes)}

/-- Every request finds the store as the history and the requests before it have left it. -/
inductive Follow (known refused : List String) :
    List (String × Bytes) → List (Requested (RunState δ MemoryStore)) → Prop
  | nil {history : List (String × Bytes)} : Follow known refused history []
  | cons {history : List (String × Bytes)} {r : Requested (RunState δ MemoryStore)}
      {rest : List (Requested (RunState δ MemoryStore))} :
      r.state.store = .ofHistory known refused history →
      Follow known refused (history ++ historyOf [r]) rest →
      Follow known refused history (r :: rest)

theorem Follow.append {rs more : List (Requested (RunState δ MemoryStore))}
    (h : Follow known refused history rs)
    (hmore : Follow known refused (history ++ historyOf rs) more) :
    Follow known refused history (rs ++ more) := by
  induction h with
  | nil => simpa using hmore
  | cons hr _ ih =>
      apply Follow.cons hr
      apply ih
      rw [List.append_assoc]
      exact hmore

theorem Follow.state_store {before after : List (Requested (RunState δ MemoryStore))}
    {r : Requested (RunState δ MemoryStore)}
    (h : Follow known refused history (before ++ r :: after)) :
    r.state.store = .ofHistory known refused (history ++ historyOf before) := by
  induction before generalizing history with
  | nil =>
      cases h with
      | cons hr _ => simpa using hr
  | cons q before ih =>
      cases h with
      | cons _ hrest => simpa using ih hrest

end History

namespace RunState

variable {δ σ ω : Type} [DiagnosticSink δ] [ArtifactStore σ ω]
variable (environment : Environment) (definition : ParserDefinition)

/-- The requests of an attempt. -/
def requests (path : String) (s : RunState δ σ) : List (Requested (RunState δ σ)) :=
  match Attempt.planOf environment definition s.files path with
  | .error _ => []
  | .ok p => p.requests host s

/-- The requests of attempts at several grammars. -/
def requestsOfAll : List String → RunState δ σ → List (Requested (RunState δ σ))
  | [], _ => []
  | path :: rest, s =>
    s.requests environment definition path ++
      requestsOfAll rest (s.attemptReporting environment definition path)

/-- What is not granted is not written. -/
theorem grants_of_emit {a : Artifact} {s t : RunState δ σ} (h : host.emit a s = (.ok (), t)) :
    s.toWorkspace.grants a.name.text = true := by
  simp only [Host.emit, host] at h
  unfold Workspace.grants
  cases hrequest : s.toWorkspace.request a.name.text with
  | mk result w =>
      rw [hrequest] at h
      cases result with
      | error e => cases h
      | ok sink => rfl

/-- A request of a name that the store contains is granted, and nothing comes of it. -/
theorem emit_of_contains {a : Artifact} {s : RunState δ σ}
    (h : ArtifactStore.contains a.name.text s.toWorkspace = true) :
    s.toWorkspace.request a.name.text = (.ok .discard, s.toWorkspace) ∧
      host.emit a s = (.ok (), s) := by
  have hrequest : s.toWorkspace.request a.name.text = (.ok .discard, s.toWorkspace) := by
    simp only [Workspace.request, Workspace.decisionFor, h, if_true]
  refine ⟨hrequest, ?_⟩
  simp only [Host.emit, host, hrequest]
  rfl

section Steady

variable [SteadyStore σ]

theorem fill_ok (bytes : Bytes) (sink : ArtifactSink ω) (s : RunState δ σ) :
    (host.fill bytes sink s).1 = .ok () := by
  cases sink with
  | discard => rfl
  | artifact writer =>
      have hwrite := SteadyStore.write_ok bytes writer s.toWorkspace
      cases hwritten : ArtifactStore.write bytes writer s.toWorkspace with
      | mk result rest =>
          rw [hwritten] at hwrite
          cases hwrite
          simp only [Host.fill, host, Workspace.write, hwritten]
          exact SteadyStore.flush_ok rest.1 rest.2

/-- Once a request has been granted, nothing keeps the artifact from being written. -/
theorem emit_isOk (a : Artifact) (s : RunState δ σ) :
    (host.emit a s).1.isOk = s.toWorkspace.grants a.name.text := by
  unfold Workspace.grants Host.emit
  simp only [host]
  cases hrequest : s.toWorkspace.request a.name.text with
  | mk result w =>
      cases result with
      | error e => rfl
      | ok sink =>
          have hfill := fill_ok (encodeText a.text) sink { s with toWorkspace := w }
          exact congrArg (fun result => (result.mapError (Error.cannotWrite a.name)).isOk) hfill

theorem requests_of_plan {path : String} {s : RunState δ σ} {p : Plan} {types parser : Artifact}
    (hplan : Attempt.planOf environment definition s.files path = .ok p)
    (hartifacts : p.artifacts = .ok [types, parser]) :
    (s.requests environment definition path).map (·.artifact.name) =
      types.name :: if s.toWorkspace.grants types.name.text then [parser.name] else [] := by
  unfold requests
  rw [hplan]
  simp only [Plan.requests, hartifacts, Host.requests, foldl_warn, List.map_cons]
  congr 1
  have hgranted := emit_isOk types
    (⟨s.toWorkspace, DiagnosticSink.emitAll (p.warnings.map .warning) s.sink⟩ : RunState δ σ)
  rw [← hgranted]
  cases hemit : host.emit types
      (⟨s.toWorkspace, DiagnosticSink.emitAll (p.warnings.map .warning) s.sink⟩ : RunState δ σ) with
  | mk result s' =>
      cases result with
      | error e => rfl
      | ok =>
          simp only [Except.isOk, Except.toBool, if_true]
          split <;> rfl

/-- For a grammar with rules the types unit is requested, and the parser only if that is granted. -/
theorem requests_of_grammar {path base : String} {g : Grammar} {s : RunState δ σ}
    {parser types : LogicalName}
    (hread : Attempt.readGrammar environment definition s.files path = .ok (base, g))
    (hrules : g.rules.isEmpty = false)
    (hparser : Request.parserName ⟨g, base, "", ""⟩ = .ok parser)
    (htypes : Request.typesName ⟨g, base, "", ""⟩ parser = .ok types) :
    (s.requests environment definition path).map (·.artifact.name) =
      types :: if s.toWorkspace.grants types.text then [parser] else [] := by
  obtain ⟨a, b, hartifacts, rfl, rfl⟩ :=
    Request.plan_artifacts (r := ⟨g, base, "", ""⟩) hrules hparser htypes
  exact requests_of_plan environment definition (Attempt.planOf_of_ok hread) hartifacts

end Steady

/-! ## Stores in memory -/

/-- To a store in memory an artifact is a name and a text. -/
theorem emit_eq_receive (a : Artifact) (s : RunState δ MemoryStore) :
    host.emit a s =
      ((s.store.receive a.name.text (encodeText a.text)).1.mapError (.cannotOpen a.name),
        { s with store := (s.store.receive a.name.text (encodeText a.text)).2 }) := by
  unfold MemoryStore.receive
  cases hcontains : s.store.contains a.name.text with
  | true => exact (emit_of_contains hcontains).2
  | false =>
      have hdecision : s.toWorkspace.decisionFor a.name.text = .write :=
        if_neg (ne_true_of_eq_false hcontains)
      cases hrefused : s.store.refused.contains a.name.text with
      | true =>
          have hcreate : s.store.create a.name.text =
              (.error (MemoryStore.refusal a.name.text), s.store) := if_pos hrefused
          simp only [Host.emit, host, Workspace.request, hdecision, ArtifactStore.create, hcreate]
          rfl
      | false =>
          obtain ⟨buffer, store, hcreate, hwrite⟩ :=
            MemoryStore.write_create (encodeText a.text) hcontains hrefused
          simp only [Host.emit, host, Workspace.request, hdecision, ArtifactStore.create, hcreate]
          simp only [Host.fill, Workspace.write, Workspace.flush, Workspace.close,
            ArtifactStore.write, ArtifactStore.flush, ArtifactStore.close, Except.map, hwrite]
          rfl

/-- Nothing is done to the files. -/
theorem emit_files (a : Artifact) (s : RunState δ MemoryStore) :
    (host.emit a s).2.files = s.files := by
  rw [emit_eq_receive]

theorem emitAll_files (artifacts : List Artifact) (s : RunState δ MemoryStore) :
    (host.emitAll artifacts s).2.files = s.files := by
  induction artifacts generalizing s with
  | nil => rfl
  | cons a rest ih =>
      have hstep := emit_files a s
      simp only [Host.emitAll]
      cases hemit : host.emit a s with
      | mk result s' =>
          rw [hemit] at hstep
          cases result with
          | error e => exact hstep
          | ok => exact (ih s').trans hstep

theorem attemptReporting_files (path : String) (s : RunState δ MemoryStore) :
    (s.attemptReporting environment definition path).files = s.files := by
  rw [attemptReporting_eq]
  cases hplan : Attempt.planOf environment definition s.files path with
  | error e => rw [attempt_of_error environment definition hplan]
  | ok p =>
      rw [attempt_of_plan environment definition hplan]
      simp only [Plan.run, foldl_warn]
      cases p.artifacts with
      | error e => rfl
      | ok artifacts => exact emitAll_files artifacts _

variable {known refused : List String}

/-- One request more. -/
theorem emit_ofHistory {history : List (String × Bytes)} {s : RunState δ MemoryStore}
    (hs : s.store = .ofHistory known refused history) (a : Artifact) :
    (host.emit a s).2.store =
      .ofHistory known refused (history ++ [(a.name.text, encodeText a.text)]) := by
  rw [emit_eq_receive, hs, MemoryStore.receive_ofHistory]

/-- A history has no influence on what is granted. -/
theorem grants_ofHistory {history : List (String × Bytes)} {s : RunState δ MemoryStore}
    (hs : s.store = .ofHistory known refused history) (name : LogicalName) :
    s.toWorkspace.grants name.text = decide (name.text ∈ known ∨ name.text ∉ refused) := by
  rw [← emit_isOk ⟨name, "", ""⟩, emit_eq_receive, hs, MemoryStore.receive_ofHistory]
  by_cases h : name.text ∈ known ∨ name.text ∉ refused
  · simp [h, Except.isOk, Except.toBool, Except.mapError]
  · simp [h, Except.isOk, Except.toBool, Except.mapError]

theorem emitAll_ofHistory {history : List (String × Bytes)} (artifacts : List Artifact)
    {s : RunState δ MemoryStore} (hs : s.store = .ofHistory known refused history) :
    Follow known refused history (host.requests artifacts s) ∧
      (host.emitAll artifacts s).2.store =
        .ofHistory known refused (history ++ historyOf (host.requests artifacts s)) := by
  induction artifacts generalizing history s with
  | nil => exact ⟨.nil, by simpa [Host.requests, Host.emitAll] using hs⟩
  | cons a rest ih =>
      have hstep := emit_ofHistory hs a
      simp only [Host.requests, Host.emitAll]
      cases hemit : host.emit a s with
      | mk result s' =>
          rw [hemit] at hstep
          cases result with
          | error e => exact ⟨.cons hs .nil, hstep⟩
          | ok =>
              obtain ⟨hfollow, hstore⟩ := ih hstep
              refine ⟨.cons hs hfollow, ?_⟩
              rw [hstore, List.append_assoc, historyOf_cons, List.singleton_append]

theorem attempt_ofHistory {history : List (String × Bytes)} (path : String)
    {s : RunState δ MemoryStore} (hs : s.store = .ofHistory known refused history) :
    Follow known refused history (s.requests environment definition path) ∧
      (s.attemptReporting environment definition path).store =
        .ofHistory known refused
          (history ++ historyOf (s.requests environment definition path)) := by
  rw [attemptReporting_eq]
  unfold requests
  cases hplan : Attempt.planOf environment definition s.files path with
  | error e =>
      rw [attempt_of_error environment definition hplan]
      exact ⟨.nil, by simpa using hs⟩
  | ok p =>
      rw [attempt_of_plan environment definition hplan]
      simp only [Plan.requests, Plan.run, foldl_warn]
      cases p.artifacts with
      | error e => exact ⟨.nil, by simpa using hs⟩
      | ok artifacts => exact emitAll_ofHistory artifacts hs

/-- A run is the history of its requests. -/
theorem foldl_ofHistory {history : List (String × Bytes)} (paths : List String)
    {s : RunState δ MemoryStore} (hs : s.store = .ofHistory known refused history) :
    Follow known refused history (s.requestsOfAll environment definition paths) ∧
      (paths.foldl (fun s path => s.attemptReporting environment definition path) s).store =
        .ofHistory known refused
          (history ++ historyOf (s.requestsOfAll environment definition paths)) := by
  induction paths generalizing history s with
  | nil => exact ⟨.nil, by simpa [requestsOfAll] using hs⟩
  | cons path rest ih =>
      obtain ⟨hfollow, hstore⟩ := attempt_ofHistory environment definition path hs
      obtain ⟨hrest, hfinal⟩ := ih hstore
      rw [requestsOfAll, List.foldl_cons, hfinal, historyOf_append, List.append_assoc]
      exact ⟨hfollow.append hrest, rfl⟩

end RunState

theorem Processor.runRound_files {δ : Type} [DiagnosticSink δ] (p : Processor δ MemoryStore) :
    p.runRound.2.files = p.files := by
  change p.drain.toRunState.files = _
  rw [drain_toRunState]
  generalize p.toRunState = s
  induction p.queue.pending generalizing s with
  | nil => rfl
  | cons path rest ih =>
      rw [List.foldl_cons, ih, RunState.attemptReporting_files]

end GrammarForge
