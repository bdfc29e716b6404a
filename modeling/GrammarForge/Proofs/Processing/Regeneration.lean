import GrammarForge.Proofs.Processing.Requests

/-!
# Generating again

A store in memory only ever gains names, and only such as are not refused. So a request that was
granted once is granted again, one that was not is refused again, and neither changes the store a
second time. A round in which every grammar is attempted twice therefore ends where it ends with
every grammar attempted once, and says the same things twice.
-/

namespace GrammarForge

open Generation DiagnosticSink

namespace MemoryStore

variable {s t u : MemoryStore} {name other : String} {text more : Bytes}

/-- The store `t` has all names of `s`, and others only if `s` does not refuse them. -/
structure Extends (s t : MemoryStore) : Prop where
  refused : t.refused = s.refused
  contains : ∀ name, s.contains name = true → t.contains name = true
  gained : ∀ name, t.contains name = true → s.contains name = true ∨ s.refused.contains name = false

theorem Extends.refl (s : MemoryStore) : s.Extends s := ⟨rfl, fun _ h => h, fun _ h => .inl h⟩

theorem Extends.trans (h : s.Extends t) (k : t.Extends u) : s.Extends u where
  refused := k.refused.trans h.refused
  contains name hname := k.contains name (h.contains name hname)
  gained name hname := by
    rcases k.gained name hname with hbefore | hrefused
    · exact h.gained name hbefore
    · exact .inr (h.refused ▸ hrefused)

theorem contains_add : (s.add name text).contains other =
    (s.contains other || decide (other = name)) := by
  have hlookup : ((s.created ++ [(name, s.buffers.length)]).lookup other).isSome =
      ((s.created.lookup other).isSome || decide (other = name)) := by
    rw [List.lookup_append]
    by_cases h : other = name
    · cases s.created.lookup other <;> simp [h]
    · have hbeq : (other == name) = false := by simpa using h
      cases s.created.lookup other <;> simp [List.lookup_cons, hbeq, h]
  simp only [contains, add, hlookup, Bool.or_assoc]

/-- A request adds a name or nothing. -/
theorem extends_receive (name : String) (text : Bytes) (s : MemoryStore) :
    s.Extends (s.receive name text).2 := by
  unfold receive
  split_ifs with hcontains hrefused
  · exact .refl s
  · exact .refl s
  · refine ⟨rfl, fun other hother => ?_, fun other hother => ?_⟩
    · rw [contains_add, hother, Bool.true_or]
    · rw [contains_add, Bool.or_eq_true, decide_eq_true_eq] at hother
      rcases hother with hother | rfl
      · exact .inl hother
      · exact .inr (by simpa using hrefused)

/-- Once a name has been requested, a request of it has the same result and changes nothing. -/
theorem receive_again (h : (s.receive name text).2.Extends t) :
    t.receive name more = ((s.receive name text).1, t) := by
  by_cases hcontains : s.contains name = true
  · have hsame : s.receive name text = (.ok (), s) := if_pos hcontains
    rw [hsame] at h ⊢
    exact if_pos (h.contains name hcontains)
  · by_cases hrefused : s.refused.contains name = true
    · have hsame : s.receive name text = (.error (refusal name), s) := by
        rw [receive, if_neg hcontains, if_pos hrefused]
      rw [hsame] at h ⊢
      have hstill : t.contains name ≠ true := fun hgained =>
        (h.gained name hgained).elim hcontains (ne_false_of_eq_true hrefused)
      rw [receive, if_neg hstill, if_pos (h.refused ▸ hrefused)]
    · have hadded : s.receive name text = (.ok (), s.add name text) := by
        rw [receive, if_neg hcontains, if_neg hrefused]
      rw [hadded] at h ⊢
      exact if_pos (h.contains name (by simp [contains_add]))

end MemoryStore

namespace RunState

variable {δ : Type} [DiagnosticSink δ]

theorem extends_emit (a : Artifact) (s : RunState δ MemoryStore) :
    s.store.Extends (host.emit a s).2.store := by
  rw [emit_eq_receive]
  exact s.store.extends_receive a.name.text (encodeText a.text)

theorem emit_again {a : Artifact} {s t : RunState δ MemoryStore}
    (h : (host.emit a s).2.store.Extends t.store) :
    host.emit a t = ((host.emit a s).1, t) := by
  rw [emit_eq_receive] at h
  rw [emit_eq_receive, emit_eq_receive, MemoryStore.receive_again h]

theorem extends_emitAll (artifacts : List Artifact) (s : RunState δ MemoryStore) :
    s.store.Extends (host.emitAll artifacts s).2.store := by
  induction artifacts generalizing s with
  | nil => exact .refl _
  | cons a rest ih =>
      have hstep := extends_emit a s
      rw [Host.emitAll]
      cases hemit : host.emit a s with
      | mk result s' =>
          rw [hemit] at hstep
          cases result with
          | error e => exact hstep
          | ok => exact hstep.trans (ih s')

/-- Artifacts that have been emitted are emitted again with the same result and without effect. -/
theorem emitAll_again {artifacts : List Artifact} {s t : RunState δ MemoryStore}
    (h : (host.emitAll artifacts s).2.store.Extends t.store) :
    host.emitAll artifacts t = ((host.emitAll artifacts s).1, t) := by
  induction artifacts generalizing s with
  | nil => rfl
  | cons a rest ih =>
      have hfirst : (host.emit a s).2.store.Extends t.store →
          host.emit a t = ((host.emit a s).1, t) := emit_again
      rw [Host.emitAll] at h
      rw [Host.emitAll, Host.emitAll]
      cases hemit : host.emit a s with
      | mk result s' =>
          rw [hemit] at h hfirst
          cases result with
          | error e => rw [hfirst h]
          | ok =>
              rw [hfirst ((extends_emitAll rest s').trans h)]
              simp only [ih h]

variable (environment : Environment) (definition : ParserDefinition)

theorem extends_attempt (path : String) (s : RunState δ MemoryStore) :
    s.store.Extends (s.attempt environment definition path).2.store := by
  cases hplan : Attempt.planOf environment definition s.files path with
  | error e =>
      rw [attempt_of_error environment definition hplan]
      exact MemoryStore.Extends.refl s.store
  | ok p =>
      rw [attempt_of_plan environment definition hplan]
      simp only [Plan.run, foldl_warn]
      cases p.artifacts with
      | error e => exact MemoryStore.Extends.refl s.store
      | ok artifacts =>
          exact extends_emitAll artifacts ⟨s.toWorkspace, emitAll (p.warnings.map .warning) s.sink⟩

/-- An attempt that was made before has the same outcome when it is made again, and says the same.
The workspace is left as it is. -/
theorem attempt_again {path : String} {s t : RunState δ MemoryStore} (hfiles : t.files = s.files)
    (hsink : t.sink = s.sink)
    (h : (s.attempt environment definition path).2.store.Extends t.store) :
    t.attempt environment definition path =
      ((s.attempt environment definition path).1,
        ⟨t.toWorkspace, (s.attempt environment definition path).2.sink⟩) := by
  cases hplan : Attempt.planOf environment definition s.files path with
  | error e =>
      have hlater : Attempt.planOf environment definition t.files path = .error e := hfiles ▸ hplan
      rw [attempt_of_error environment definition hplan,
        attempt_of_error environment definition hlater, ← hsink]
  | ok p =>
      have hlater : Attempt.planOf environment definition t.files path = .ok p := hfiles ▸ hplan
      rw [attempt_of_plan environment definition hplan] at h ⊢
      rw [attempt_of_plan environment definition hlater]
      simp only [Plan.run, foldl_warn, hsink] at h ⊢
      cases hartifacts : p.artifacts with
      | error e => rfl
      | ok artifacts =>
          rw [hartifacts] at h
          simp only at h ⊢
          have hagain := emitAll_again
            (t := (⟨t.toWorkspace, emitAll (p.warnings.map .warning) s.sink⟩ :
              RunState δ MemoryStore)) h
          rw [hagain, emitAll_sink]

/-- A workspace in which a grammar was attempted. -/
theorem workspaceAfter_again {path : String} {w v : Workspace MemoryStore}
    (hfiles : v.files = w.files)
    (h : (workspaceAfter environment definition path w).store.Extends v.store) :
    workspaceAfter environment definition path v = v ∧
      diagnosticsOf environment definition path v =
        diagnosticsOf environment definition path w := by
  unfold workspaceAfter at h
  have hagain := attempt_again environment definition
    (s := (⟨w, []⟩ : RunState (List Diagnostic) MemoryStore)) (t := ⟨v, []⟩) hfiles rfl h
  unfold workspaceAfter diagnosticsOf
  simp only [attemptReporting_eq, hagain, and_self]

theorem workspaceAfter_files (path : String) (w : Workspace MemoryStore) :
    (workspaceAfter environment definition path w).files = w.files := by
  have hattempt := attemptReporting_files environment definition path
    (⟨w, []⟩ : RunState (List Diagnostic) MemoryStore)
  rwa [attemptReporting_replay] at hattempt

theorem extends_workspaceAfterAll (paths : List String) (w : Workspace MemoryStore) :
    w.store.Extends (workspaceAfterAll environment definition paths w).store := by
  induction paths generalizing w with
  | nil => exact MemoryStore.Extends.refl w.store
  | cons path rest ih =>
      rw [workspaceAfterAll_cons]
      exact (extends_attempt environment definition path
        (⟨w, []⟩ : RunState (List Diagnostic) MemoryStore)).trans (ih _)

/-- The same of several grammars, which may be in the list more than once. -/
theorem workspaceAfterAll_again {paths : List String} {w v : Workspace MemoryStore}
    (hfiles : v.files = w.files)
    (h : (workspaceAfterAll environment definition paths w).store.Extends v.store) :
    workspaceAfterAll environment definition paths v = v ∧
      blocks environment definition paths v = blocks environment definition paths w := by
  induction paths generalizing w with
  | nil => exact ⟨rfl, rfl⟩
  | cons path rest ih =>
      rw [workspaceAfterAll_cons] at h
      have hfirst : (workspaceAfter environment definition path w).store.Extends v.store :=
        (extends_workspaceAfterAll environment definition rest _).trans h
      obtain ⟨hafter, hdiagnostics⟩ := workspaceAfter_again environment definition hfiles hfirst
      have hrest := ih (hfiles.trans (workspaceAfter_files environment definition path w).symm) h
      rw [workspaceAfterAll_cons, blocks, blocks, hafter, hdiagnostics, hrest.1, hrest.2]
      exact ⟨rfl, rfl⟩

theorem workspaceAfterAll_files (paths : List String) (w : Workspace MemoryStore) :
    (workspaceAfterAll environment definition paths w).files = w.files := by
  induction paths generalizing w with
  | nil => rfl
  | cons path rest ih => rw [workspaceAfterAll_cons, ih, workspaceAfter_files]

end RunState

namespace Processor

variable {δ : Type} [DiagnosticSink δ]

/-- A round over a list of grammars that comes twice in the queue ends with the store that a round
over the list ends with, whatever was known, refused or created before it. What is reported is
reported a second time, in the same order, after the first pass over the list. -/
theorem second_pass_changes_nothing (p : Processor δ MemoryStore) (paths : List String) :
    let once := (p.withPending paths).runRound.2
    let twice := (p.withPending (paths ++ paths)).runRound.2
    let reported := (p.blocks paths).flatten
    twice.store.createdNames = once.store.createdNames ∧
      (∀ name, twice.store.contents? name = once.store.contents? name) ∧
      twice.toWorkspace = once.toWorkspace ∧
      p.blocks (paths ++ paths) = p.blocks paths ++ p.blocks paths ∧
      once.sink = emitAll reported p.sink ∧
      twice.sink = emitAll (reported ++ reported) p.sink := by
  intro once twice reported
  obtain ⟨hworkspace, hblocks⟩ := RunState.workspaceAfterAll_again p.environment p.definition
    (RunState.workspaceAfterAll_files p.environment p.definition paths p.toWorkspace)
    (MemoryStore.Extends.refl _)
  have hboth : p.blocks (paths ++ paths) = p.blocks paths ++ p.blocks paths := by
    unfold blocks
    rw [RunState.blocks_append, hblocks]
  have honce : once.toRunState = ⟨RunState.workspaceAfterAll p.environment p.definition paths
      p.toWorkspace, emitAll reported p.sink⟩ := runRound_toRunState paths p
  have htwice : twice.toRunState = ⟨RunState.workspaceAfterAll p.environment p.definition paths
      p.toWorkspace, emitAll (reported ++ reported) p.sink⟩ := by
    have hround := runRound_toRunState (paths ++ paths) p
    rwa [RunState.workspaceAfterAll_append, hworkspace, hboth, List.flatten_append] at hround
  have hsame : twice.toWorkspace = once.toWorkspace :=
    (congrArg RunState.toWorkspace htwice).trans (congrArg RunState.toWorkspace honce).symm
  refine ⟨by rw [hsame], fun name => by rw [hsame], hsame, hboth, ?_, ?_⟩
  · exact congrArg RunState.sink honce
  · exact congrArg RunState.sink htwice

end Processor

end GrammarForge
