import GrammarForge.Processing.Rounds

/-!
# What a round reports

A sink takes diagnostics and gives nothing back. So an attempt can be made with an empty list for a
sink, and what is in the list afterwards is what any other sink would have been given. The
diagnostics of a round are those of its attempts, one block after the other.
-/

namespace GrammarForge

namespace Generation.Host

variable {σ τ ω : Type}

/-- Two hosts treat sinks alike, up to a translation of states. -/
structure Emulates (h : Host τ ω) (g : Host σ ω) (f : σ → τ) : Prop where
  openSink : ∀ name path s,
    h.openSink name path (f s) = ((g.openSink name path s).1, f (g.openSink name path s).2)
  write : ∀ bytes sink s,
    h.write bytes sink (f s) =
      ((g.write bytes sink s).1, (g.write bytes sink s).2.1, f (g.write bytes sink s).2.2)
  flush : ∀ sink s,
    h.flush sink (f s) = ((g.flush sink s).1, (g.flush sink s).2.1, f (g.flush sink s).2.2)
  close : ∀ sink s, h.close sink (f s) = f (g.close sink s)

variable {h : Host τ ω} {g : Host σ ω} {f : σ → τ}

theorem Emulates.fill (hf : h.Emulates g f) (bytes : Bytes) (sink : ω) (s : σ) :
    h.fill bytes sink (f s) = ((g.fill bytes sink s).1, f (g.fill bytes sink s).2) := by
  unfold Host.fill
  rw [hf.write]
  obtain ⟨result, sink, s⟩ := g.write bytes sink s
  cases result with
  | error e => simp only [hf.close]
  | ok => simp only [hf.flush, hf.close]

theorem Emulates.emit (hf : h.Emulates g f) (a : Artifact) (s : σ) :
    h.emit a (f s) = ((g.emit a s).1, f (g.emit a s).2) := by
  unfold Host.emit
  rw [hf.openSink]
  obtain ⟨result, s⟩ := g.openSink a.name a.path s
  cases result with
  | error e => rfl
  | ok sink => simp only [hf.fill]

theorem Emulates.emitAll (hf : h.Emulates g f) (artifacts : List Artifact) (s : σ) :
    h.emitAll artifacts (f s) = ((g.emitAll artifacts s).1, f (g.emitAll artifacts s).2) := by
  induction artifacts generalizing s with
  | nil => rfl
  | cons a rest ih =>
      simp only [Host.emitAll, hf.emit]
      obtain ⟨result, s⟩ := g.emit a s
      cases result with
      | error e => rfl
      | ok => simp only [ih]

end Generation.Host

section Sinks

variable {δ : Type} [DiagnosticSink δ]

/-- Emit diagnostics in order. -/
def DiagnosticSink.emitAll (ds : List Diagnostic) (sink : δ) : δ :=
  ds.foldl (fun sink d => DiagnosticSink.emit d sink) sink

open DiagnosticSink

@[simp] theorem emitAll_nil (sink : δ) : emitAll [] sink = sink := rfl

@[simp] theorem emitAll_append (ds es : List Diagnostic) (sink : δ) :
    emitAll (ds ++ es) sink = emitAll es (emitAll ds sink) := List.foldl_append ..

theorem emitAll_list (ds kept : List Diagnostic) : emitAll ds kept = kept ++ ds := by
  induction ds generalizing kept with
  | nil => simp
  | cons d rest ih =>
      change emitAll rest (kept ++ [d]) = _
      rw [ih, List.append_assoc, List.singleton_append]

end Sinks

namespace Attempt

/-- What an attempt carries out once the grammar has been read. -/
def planOf (environment : Environment) (definition : ParserDefinition) (files : FileSystem)
    (path : String) : Except AttemptError Generation.Plan :=
  (readGrammar environment definition files path).map fun (base, g) =>
    Generation.Request.plan ⟨g, base, "", ""⟩

theorem planOf_of_ok {environment : Environment} {definition : ParserDefinition}
    {files : FileSystem} {path base : String} {g : Grammar}
    (h : readGrammar environment definition files path = .ok (base, g)) :
    planOf environment definition files path =
      .ok (Generation.Request.plan ⟨g, base, "", ""⟩) := by
  rw [planOf, h]
  rfl

theorem planOf_of_error {environment : Environment} {definition : ParserDefinition}
    {files : FileSystem} {path : String} {e : AttemptError}
    (h : readGrammar environment definition files path = .error e) :
    planOf environment definition files path = .error e := by
  rw [planOf, h]
  rfl

/-- How the outcome of an attempt is reported. -/
def failures {α : Type} : Except AttemptError α → List Diagnostic
  | .ok _ => []
  | .error e => [.error e.describe]

end Attempt

open DiagnosticSink

namespace RunState

variable {δ δ' σ ω : Type} [DiagnosticSink δ] [DiagnosticSink δ'] [ArtifactStore σ ω]

theorem emulates_withSink (sink : δ) :
    (host : Generation.Host (RunState δ σ) (ArtifactSink ω)).Emulates
      (host : Generation.Host (RunState δ' σ) (ArtifactSink ω)) fun s => ⟨s.toWorkspace, sink⟩ :=
  ⟨fun _ _ _ => rfl, fun _ _ _ => rfl, fun _ _ => rfl, fun _ _ => rfl⟩

theorem foldl_warn (warnings : List String) (s : RunState δ σ) :
    warnings.foldl (fun s text => (host : Generation.Host _ (ArtifactSink ω)).warn text s) s =
      ⟨s.toWorkspace, emitAll (warnings.map .warning) s.sink⟩ := by
  induction warnings generalizing s with
  | nil => rfl
  | cons text rest ih => exact ih (s.report (.warning text))

/-- Artifacts are emitted without a look at the sink. -/
theorem emitAll_artifacts (artifacts : List Generation.Artifact) (w : Workspace σ) (sink : δ)
    (sink' : δ') :
    host.emitAll artifacts (⟨w, sink⟩ : RunState δ σ) =
      ((host.emitAll artifacts (⟨w, sink'⟩ : RunState δ' σ)).1,
        ⟨(host.emitAll artifacts (⟨w, sink'⟩ : RunState δ' σ)).2.toWorkspace, sink⟩) :=
  (emulates_withSink sink).emitAll artifacts (⟨w, sink'⟩ : RunState δ' σ)

/-- Emission gives nothing to the sink. -/
theorem emitAll_sink (artifacts : List Generation.Artifact) (s : RunState δ σ) :
    (host.emitAll artifacts s).2.sink = s.sink :=
  congrArg (·.2.sink) (emitAll_artifacts artifacts s.toWorkspace s.sink s.sink)

/-- A plan that is carried out gives its warnings to the sink and nothing else. -/
theorem run_plan (p : Generation.Plan) (s : RunState δ σ) :
    p.run host s =
      ((p.run host (⟨s.toWorkspace, []⟩ : RunState (List Diagnostic) σ)).1,
        ⟨(p.run host (⟨s.toWorkspace, []⟩ : RunState (List Diagnostic) σ)).2.toWorkspace,
          emitAll (p.warnings.map .warning) s.sink⟩) := by
  unfold Generation.Plan.run
  simp only [foldl_warn]
  cases p.artifacts with
  | error e => rfl
  | ok artifacts => exact emitAll_artifacts artifacts _ _ _

theorem run_plan_list (p : Generation.Plan) (w : Workspace σ) (kept : List Diagnostic) :
    (p.run host (⟨w, kept⟩ : RunState (List Diagnostic) σ)).2.sink =
      kept ++ p.warnings.map .warning := by
  rw [run_plan, emitAll_list]

variable (environment : Environment) (definition : ParserDefinition)

theorem attempt_of_error {path : String} {s : RunState δ σ} {e : AttemptError}
    (h : Attempt.planOf environment definition s.files path = .error e) :
    s.attempt environment definition path = (.error e, s) := by
  unfold Attempt.planOf at h
  unfold attempt
  cases hread : Attempt.readGrammar environment definition s.files path with
  | error e' =>
      rw [hread] at h
      cases h
      rfl
  | ok r =>
      rw [hread] at h
      cases h

theorem attempt_of_plan {path : String} {s : RunState δ σ} {p : Generation.Plan}
    (h : Attempt.planOf environment definition s.files path = .ok p) :
    s.attempt environment definition path =
      ((p.run host s).1.mapError .generation, (p.run host s).2) := by
  unfold Attempt.planOf at h
  unfold attempt
  cases hread : Attempt.readGrammar environment definition s.files path with
  | error e =>
      rw [hread] at h
      cases h
  | ok r =>
      obtain ⟨base, g⟩ := r
      rw [hread] at h
      cases h
      rfl

theorem attemptReporting_eq (path : String) (s : RunState δ σ) :
    s.attemptReporting environment definition path =
      ⟨(s.attempt environment definition path).2.toWorkspace,
        emitAll (Attempt.failures (s.attempt environment definition path).1)
          (s.attempt environment definition path).2.sink⟩ := by
  unfold attemptReporting
  obtain ⟨result, s⟩ := s.attempt environment definition path
  cases result with
  | ok => rfl
  | error e => rfl

/-- What is reported in an attempt: everything that an empty list is given. -/
def diagnosticsOf (path : String) (w : Workspace σ) : List Diagnostic :=
  ((⟨w, []⟩ : RunState (List Diagnostic) σ).attemptReporting environment definition path).sink

/-- The workspace that an attempt leaves behind. -/
def workspaceAfter (path : String) (w : Workspace σ) : Workspace σ :=
  ((⟨w, []⟩ : RunState (List Diagnostic) σ).attempt environment definition path).2.toWorkspace

/-- An attempt does with its workspace what it does with a list for a sink, and gives its sink
warnings only. -/
theorem attempt_eq (path : String) (s : RunState δ σ) : ∃ warnings : List String,
    s.attempt environment definition path =
      (((⟨s.toWorkspace, []⟩ : RunState (List Diagnostic) σ).attempt environment definition path).1,
        ⟨workspaceAfter environment definition path s.toWorkspace,
          emitAll (warnings.map .warning) s.sink⟩) ∧
    diagnosticsOf environment definition path s.toWorkspace =
      warnings.map .warning ++ Attempt.failures (s.attempt environment definition path).1 := by
  unfold diagnosticsOf workspaceAfter
  rw [attemptReporting_eq, emitAll_list]
  cases hplan : Attempt.planOf environment definition s.files path with
  | error e =>
      refine ⟨[], ?_⟩
      have hlist := attempt_of_error (s := (⟨s.toWorkspace, []⟩ : RunState (List Diagnostic) σ))
        environment definition hplan
      rw [attempt_of_error environment definition hplan, hlist]
      exact ⟨rfl, rfl⟩
  | ok p =>
      refine ⟨p.warnings, ?_⟩
      have hlist := attempt_of_plan (s := (⟨s.toWorkspace, []⟩ : RunState (List Diagnostic) σ))
        environment definition hplan
      rw [attempt_of_plan environment definition hplan, hlist]
      simp only
      rw [run_plan_list, run_plan p s]
      exact ⟨rfl, by simp⟩

/-- The outcome of an attempt does not depend on the sink. -/
theorem attempt_outcome (path : String) (w : Workspace σ) (sink : δ) (sink' : δ') :
    ((⟨w, sink⟩ : RunState δ σ).attempt environment definition path).1 =
      ((⟨w, sink'⟩ : RunState δ' σ).attempt environment definition path).1 := by
  obtain ⟨_, h, -⟩ := attempt_eq environment definition path (⟨w, sink⟩ : RunState δ σ)
  obtain ⟨_, h', -⟩ := attempt_eq environment definition path (⟨w, sink'⟩ : RunState δ' σ)
  rw [h, h']

/-- The diagnostics of an attempt are warnings, and an error at the end if the attempt failed. -/
theorem diagnosticsOf_eq (path : String) (s : RunState δ σ) : ∃ warnings : List String,
    diagnosticsOf environment definition path s.toWorkspace =
      warnings.map .warning ++ Attempt.failures (s.attempt environment definition path).1 := by
  obtain ⟨warnings, -, h⟩ := attempt_eq environment definition path s
  exact ⟨warnings, h⟩

theorem attemptReporting_replay (path : String) (s : RunState δ σ) :
    s.attemptReporting environment definition path =
      ⟨workspaceAfter environment definition path s.toWorkspace,
        emitAll (diagnosticsOf environment definition path s.toWorkspace) s.sink⟩ := by
  obtain ⟨warnings, h, hdiagnostics⟩ := attempt_eq environment definition path s
  rw [attemptReporting_eq, hdiagnostics, emitAll_append, h]

/-- The diagnostics of attempts at several grammars, one block for each. -/
def blocks : List String → Workspace σ → List (List Diagnostic)
  | [], _ => []
  | path :: rest, w =>
    diagnosticsOf environment definition path w ::
      blocks rest (workspaceAfter environment definition path w)

/-- The workspace that attempts at several grammars leave behind. -/
def workspaceAfterAll (paths : List String) (w : Workspace σ) : Workspace σ :=
  paths.foldl (fun w path => workspaceAfter environment definition path w) w

theorem workspaceAfterAll_cons (path : String) (rest : List String) (w : Workspace σ) :
    workspaceAfterAll environment definition (path :: rest) w =
      workspaceAfterAll environment definition rest
        (workspaceAfter environment definition path w) := List.foldl_cons ..

theorem workspaceAfterAll_append (xs ys : List String) (w : Workspace σ) :
    workspaceAfterAll environment definition (xs ++ ys) w =
      workspaceAfterAll environment definition ys
        (workspaceAfterAll environment definition xs w) := List.foldl_append ..

theorem length_blocks (paths : List String) (w : Workspace σ) :
    (blocks environment definition paths w).length = paths.length := by
  induction paths generalizing w with
  | nil => rfl
  | cons path rest ih => simp only [blocks, List.length_cons, ih]

theorem blocks_append (xs ys : List String) (w : Workspace σ) :
    blocks environment definition (xs ++ ys) w =
      blocks environment definition xs w ++
        blocks environment definition ys (workspaceAfterAll environment definition xs w) := by
  induction xs generalizing w with
  | nil => rfl
  | cons path rest ih =>
      simp only [List.cons_append, blocks, ih, workspaceAfterAll_cons]

theorem foldl_attemptReporting (paths : List String) (s : RunState δ σ) :
    paths.foldl (fun s path => s.attemptReporting environment definition path) s =
      ⟨workspaceAfterAll environment definition paths s.toWorkspace,
        emitAll (blocks environment definition paths s.toWorkspace).flatten s.sink⟩ := by
  induction paths generalizing s with
  | nil => rfl
  | cons path rest ih =>
      rw [List.foldl_cons, ih, attemptReporting_replay]
      simp only [blocks, List.flatten_cons, emitAll_append, workspaceAfterAll_cons]

end RunState

namespace Processor

variable {δ σ ω : Type} [DiagnosticSink δ] [ArtifactStore σ ω]

/-- The processor with these grammars in its queue. -/
def withPending (paths : List String) (p : Processor δ σ) : Processor δ σ :=
  { p with queue := { p.queue with pending := paths } }

/-- The diagnostics of a round over these grammars, one block for each. -/
def blocks (paths : List String) (p : Processor δ σ) : List (List Diagnostic) :=
  RunState.blocks p.environment p.definition paths p.toWorkspace

/-- A round over these grammars leaves behind what the attempts leave behind, and gives the sink
their diagnostics. -/
theorem runRound_toRunState (paths : List String) (p : Processor δ σ) :
    (p.withPending paths).runRound.2.toRunState =
      ⟨RunState.workspaceAfterAll p.environment p.definition paths p.toWorkspace,
        emitAll (p.blocks paths).flatten p.sink⟩ := by
  change (p.withPending paths).drain.toRunState = _
  rw [drain_toRunState]
  exact RunState.foldl_attemptReporting p.environment p.definition paths p.toRunState

end Processor

end GrammarForge
