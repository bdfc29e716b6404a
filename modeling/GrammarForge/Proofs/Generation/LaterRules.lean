import GrammarForge.Processing.Attempt
import GrammarForge.Proofs.Generation.AnalysisPasses
import GrammarForge.Proofs.Generation.CallTraces
import GrammarForge.Store.Memory

/-!
# Later rules of a name

Of the rules of one name only the first counts. If the others are left out of a grammar, its plan
keeps all artifacts, with their texts, and loses the warnings about these rules, which stand in
front of all others. So a host that does not heed warnings is asked for the same in both cases, and
any other host for what it is asked for when it has had these warnings before.
-/

namespace GrammarForge

namespace Grammar

/-- The rules whose name is that of a rule in front of them. -/
def laterRules (g : Grammar) : List Rule := rulesAt g.rules fun i => ¬ IsFirst g.rules i

/-- The grammar without its later rules. -/
def withoutLater (g : Grammar) : Grammar := { g with rules := rulesAt g.rules (IsFirst g.rules) }

end Grammar

/-- Rules are kept if no two of them have the same name. -/
theorem splitDuplicates_of_nodup {seen : List String} {rules : List Rule}
    (hnew : ∀ r ∈ rules, r.name ∉ seen) (h : (rules.map (·.name)).Nodup) :
    splitDuplicates seen rules = (rules, []) := by
  induction rules generalizing seen with
  | nil => rfl
  | cons r rest ih =>
      rw [List.map_cons, List.nodup_cons] at h
      have hseen : r.name ∉ seen := hnew r List.mem_cons_self
      have hrest : ∀ q ∈ rest, q.name ∉ r.name :: seen := by
        intro q hq hmem
        rcases List.mem_cons.1 hmem with hname | hmem
        · exact h.1 (hname ▸ List.mem_map_of_mem hq)
        · exact hnew q (List.mem_cons_of_mem r hq) hmem
      rw [splitDuplicates, if_neg (by simpa using hseen), ih hrest h.2]

namespace Analysis

theorem duplicates_eq_laterRules (g : Grammar) : (ofGrammar g).duplicates = g.laterRules :=
  duplicates_eq g

theorem ofGrammar_withoutLater (g : Grammar) :
    ofGrammar g.withoutLater = { ofGrammar g with duplicates := [] } := by
  have hkept : g.withoutLater.rules = (ofGrammar g).rules := (rules_eq g).symm
  have hsplit : splitDuplicates [] g.withoutLater.rules = ((ofGrammar g).rules, []) := by
    rw [hkept]
    exact splitDuplicates_of_nodup (by simp) (nodup_names g)
  have hrules : (ofGrammar g.withoutLater).rules = (ofGrammar g).rules := by
    change (splitDuplicates [] g.withoutLater.rules).1 = _
    rw [hsplit]
  have hduplicates : (ofGrammar g.withoutLater).duplicates = [] := by
    change (splitDuplicates [] g.withoutLater.rules).2 = _
    rw [hsplit]
  rw [ofGrammar_of_rules_eq hrules, hduplicates]

end Analysis

/-- The first rule of a grammar stays. -/
theorem Grammar.withoutLater_rules_eq_nil_iff (g : Grammar) :
    g.withoutLater.rules = [] ↔ g.rules = [] := by
  have hroot : g.withoutLater.rules.head? = g.rules.head? :=
    (congrArg List.head? (Analysis.rules_eq g)).symm.trans (Analysis.head?_rules g)
  rw [← List.head?_eq_none_iff, hroot, List.head?_eq_none_iff]

namespace Generation

namespace Request

variable (r : Request)

/-- The same request for the grammar without its later rules. -/
def withoutLater : Request := { r with grammar := r.grammar.withoutLater }

/-- The warnings about later rules, one for each. -/
def laterWarnings : List String :=
  r.grammar.laterRules.map fun rule =>
    (Warning.duplicateRule rule.name).message (fileNameOf r.grammar)

theorem laterWarnings_of_no_rules {r : Request} (h : r.grammar.rules = []) :
    r.laterWarnings = [] := by
  rw [laterWarnings, ← Analysis.duplicates_eq_laterRules]
  simp [Analysis.ofGrammar, splitDuplicates, h]

theorem withoutLater_rules_ne_nil {r : Request} (h : r.grammar.rules ≠ []) :
    r.withoutLater.grammar.rules ≠ [] := (Grammar.withoutLater_rules_eq_nil_iff r.grammar).not.2 h

theorem plan_withoutLater_of_no_rules {r : Request} (h : r.grammar.rules = []) :
    r.withoutLater.plan = r.plan := by
  have hempty : r.withoutLater.grammar.rules = [] :=
    (Grammar.withoutLater_rules_eq_nil_iff r.grammar).2 h
  rw [plan_of_no_rules h, plan_of_no_rules hempty]
  rfl

/-- The units do not depend on later rules. -/
theorem units_withoutLater (parser types : LogicalName) :
    r.withoutLater.units parser types = r.units parser types := by
  have hanalysis := Analysis.ofGrammar_withoutLater r.grammar
  simp only [units, withoutLater, hanalysis]
  rfl

theorem artifacts_withoutLater : r.withoutLater.plan.artifacts = r.plan.artifacts := by
  by_cases hrules : r.grammar.rules = []
  · rw [plan_withoutLater_of_no_rules hrules]
  · rw [plan_artifacts_eq hrules, plan_artifacts_eq (withoutLater_rules_ne_nil hrules)]
    simp only [units_withoutLater]
    rfl

/-- The warnings about later rules stand in front of all others. -/
theorem warnings_eq_laterWarnings_append :
    r.plan.warnings = r.laterWarnings ++ r.withoutLater.plan.warnings := by
  by_cases hrules : r.grammar.rules = []
  · rw [laterWarnings_of_no_rules hrules, plan_withoutLater_of_no_rules hrules, List.nil_append]
  · have hanalysis := Analysis.ofGrammar_withoutLater r.grammar
    have hwarnings : ruleWarnings (.ofGrammar r.grammar) =
        r.grammar.laterRules.map (fun rule => .duplicateRule rule.name) ++
          ruleWarnings (.ofGrammar r.grammar.withoutLater) := by
      rw [hanalysis, ruleWarnings, Analysis.duplicates_eq_laterRules]
      simp [ruleWarnings]
    have hname : r.withoutLater.nameWarnings = r.nameWarnings := rfl
    have hfile : fileNameOf r.withoutLater.grammar = fileNameOf r.grammar := rfl
    have hgrammar : r.withoutLater.grammar = r.grammar.withoutLater := rfl
    rw [warnings_eq, if_neg (by simpa using hrules), warnings_eq r.withoutLater,
      if_neg (by simpa using withoutLater_rules_ne_nil hrules), hwarnings, hname, hfile, hgrammar,
      List.append_assoc, List.map_append]
    simp [laterWarnings]

end Request

variable {σ ω : Type}

/-- Warnings make no difference to what a host answers: its answers are given from a view of its
state that stays as it is when the host is warned. -/
def Host.IgnoresWarnings (host : Host σ ω) : Prop :=
  ∃ (τ : Type) (viewed : Host τ ω) (view : σ → τ), viewed.Emulates host view ∧
    ∀ text s, view (host.warn text s) = view s

/-- The record of calls goes on from any calls before. -/
theorem Host.emulates_traced_append (host : Host σ ω) (calls : List Call) :
    host.traced.Emulates host.traced fun s => (s.1, calls ++ s.2) := by
  refine ⟨fun name path s => ?_, fun bytes sink s => ?_, fun sink s => ?_, fun sink s => ?_⟩
  · simp [traced]
  · simp [traced]
  · simp [traced]
  · simp [traced]

/-- A view of the state is enough also for the host that keeps a record. -/
theorem Host.Emulates.traced {τ : Type} {viewed : Host τ ω} {host : Host σ ω} {view : σ → τ}
    (h : viewed.Emulates host view) :
    viewed.traced.Emulates host.traced fun s => (view s.1, s.2) := by
  refine ⟨fun name path s => ?_, fun bytes sink s => ?_, fun sink s => ?_, fun sink s => ?_⟩
  · simp [Host.traced, h.openSink]
  · simp [Host.traced, h.write]
  · simp [Host.traced, h.flush]
  · simp [Host.traced, h.close]

/-- What is called when artifacts are emitted. -/
def Host.emissionCalls (host : Host σ ω) (artifacts : List Artifact) (s : σ) : List Call :=
  (host.traced.emitAll artifacts (s, [])).2.2

theorem Host.emitAll_traced_calls (host : Host σ ω) (artifacts : List Artifact) (s : σ)
    (calls : List Call) : (host.traced.emitAll artifacts (s, calls)).2.2 =
      calls ++ host.emissionCalls artifacts s := by
  have hemit := (host.emulates_traced_append calls).emitAll artifacts (s, [])
  simp only [List.append_nil] at hemit
  exact congrArg (·.2.2) hemit

theorem Host.Emulates.emissionCalls_eq {τ : Type} {viewed : Host τ ω} {host : Host σ ω}
    {view : σ → τ} (h : viewed.Emulates host view) (artifacts : List Artifact) (s : σ) :
    host.emissionCalls artifacts s = viewed.emissionCalls artifacts (view s) :=
  (congrArg (·.2.2) (h.traced.emitAll artifacts (s, []))).symm

theorem Host.Emulates.result_eq {τ : Type} {viewed : Host τ ω} {host : Host σ ω}
    {view : σ → τ} (h : viewed.Emulates host view) (artifacts : List Artifact) (s : σ) :
    (host.emitAll artifacts s).1 = (viewed.emitAll artifacts (view s)).1 :=
  (congrArg (·.1) (h.emitAll artifacts s)).symm

/-- The state of a host that was warned. -/
def Host.warned (host : Host σ ω) (warnings : List String) (s : σ) : σ :=
  warnings.foldl (fun s text => host.warn text s) s

theorem Host.view_warned {τ : Type} {host : Host σ ω} {view : σ → τ}
    (h : ∀ text s, view (host.warn text s) = view s) (warnings : List String) (s : σ) :
    view (host.warned warnings s) = view s := by
  induction warnings generalizing s with
  | nil => rfl
  | cons text rest ih => exact (ih (host.warn text s)).trans (h text s)

namespace Request

variable (r : Request) (host : Host σ ω) (s : σ)

theorem trace_eq : r.trace host s = r.plan.warnings.map .warned ++
    match r.plan.artifacts with
    | .error _ => []
    | .ok artifacts => host.emissionCalls artifacts (host.warned r.plan.warnings s) := by
  rw [trace, Plan.run]
  simp only [host.foldl_warn_traced, List.nil_append]
  cases r.plan.artifacts with
  | error e => simp
  | ok artifacts => exact host.emitAll_traced_calls artifacts _ _

theorem result_eq : r.result host s =
    match r.plan.artifacts with
    | .error e => .error e
    | .ok artifacts => (host.emitAll artifacts (host.warned r.plan.warnings s)).1 := by
  rw [result, Plan.run]
  cases r.plan.artifacts with
  | error e => rfl
  | ok artifacts => rfl

/-- To carry out a request is to warn of the later rules and to go on as if there were none. -/
theorem run_eq_withoutLater : r.plan.run host s =
    r.withoutLater.plan.run host (host.warned r.laterWarnings s) := by
  simp only [Plan.run, r.artifacts_withoutLater, r.warnings_eq_laterWarnings_append,
    List.foldl_append]
  rfl

theorem trace_eq_withoutLater : r.trace host s =
    r.laterWarnings.map .warned ++ r.withoutLater.trace host (host.warned r.laterWarnings s) := by
  have hwarned : host.warned r.plan.warnings s =
      host.warned r.withoutLater.plan.warnings (host.warned r.laterWarnings s) := by
    rw [r.warnings_eq_laterWarnings_append]
    exact List.foldl_append
  rw [trace_eq, trace_eq, r.artifacts_withoutLater, hwarned, r.warnings_eq_laterWarnings_append,
    List.map_append, List.append_assoc]

/-- Carried out by a host that ignores warnings, a request is the same whatever warnings the host
was given before. -/
theorem trace_warned {host : Host σ ω} (h : host.IgnoresWarnings) (warnings : List String) (s : σ) :
    r.trace host (host.warned warnings s) = r.trace host s ∧
      r.result host (host.warned warnings s) = r.result host s := by
  obtain ⟨τ, viewed, view, hemulates, hview⟩ := h
  have hsame : view (host.warned r.plan.warnings (host.warned warnings s)) =
      view (host.warned r.plan.warnings s) := by
    rw [Host.view_warned hview, Host.view_warned hview, Host.view_warned hview]
  rw [trace_eq, trace_eq, result_eq, result_eq]
  simp only [hemulates.emissionCalls_eq, hemulates.result_eq, hsame, and_self]

/-- Later rules of a name are of no account. Without them the artifacts are the same, with their
texts, and the warnings are the same but for one about each of these rules, which stand in front.
Any host is asked for the same as if it had been given these warnings beforehand; if it does not
heed warnings, for the same as without them. -/
theorem later_rules_are_ignored :
    (r.withoutLater.grammar.rules ++ r.grammar.laterRules).Perm r.grammar.rules ∧
    r.plan.artifacts = r.withoutLater.plan.artifacts ∧
    r.plan.warnings = (r.grammar.laterRules.map fun rule =>
      s!"{fileNameOf r.grammar}: duplicate rule '{rule.name}', later definition ignored") ++
        r.withoutLater.plan.warnings ∧
    ∀ (σ ω : Type) (host : Host σ ω) (s : σ),
      r.plan.run host s = r.withoutLater.plan.run host (host.warned r.laterWarnings s) ∧
      r.trace host s = r.laterWarnings.map .warned ++
        r.withoutLater.trace host (host.warned r.laterWarnings s) ∧
      (host.IgnoresWarnings →
        r.trace host s = r.laterWarnings.map .warned ++ r.withoutLater.trace host s ∧
          r.result host s = r.withoutLater.result host s) := by
  refine ⟨rulesAt_perm r.grammar.rules _, r.artifacts_withoutLater.symm,
    r.warnings_eq_laterWarnings_append, fun σ ω host s => ?_⟩
  have hrun := r.run_eq_withoutLater host s
  have htrace := r.trace_eq_withoutLater host s
  refine ⟨hrun, htrace, fun hignores => ?_⟩
  obtain ⟨hcalls, hresult⟩ := r.withoutLater.trace_warned hignores r.laterWarnings s
  refine ⟨by rw [htrace, hcalls], ?_⟩
  rw [← hresult, result, hrun]
  rfl

end Request

end Generation

/-- What is reported has no influence on what is written. -/
theorem RunState.host_ignoresWarnings {δ σ ω : Type} [DiagnosticSink δ] [ArtifactStore σ ω] :
    (host : Generation.Host (RunState δ σ) (ArtifactSink ω)).IgnoresWarnings :=
  ⟨RunState (List Diagnostic) σ, host, fun s => ⟨s.toWorkspace, []⟩, emulates_withSink [],
    fun _ _ => rfl⟩

namespace Generation.Request

/-- A grammar with two rules of one name, of which the later one is private and refers to itself. -/
def shadowedRequest : Request :=
  ⟨⟨"g/a.bnf", [("parserClass", "demo::P")], [⟨"a", false, .reference "b", ⟨0, 0⟩⟩,
    ⟨"b", false, .token "X", ⟨0, 0⟩⟩, ⟨"b", true, .sequence [.token "Y", .reference "b"], ⟨0, 0⟩⟩]⟩,
    "g", "", ""⟩

/-- A run that starts with nothing. -/
def emptyRun : RunState (List Diagnostic) MemoryStore := ⟨⟨⟨[], [], [], [], []⟩, .empty⟩, []⟩

/-- The second rule `b` leaves one warning behind and nothing else. -/
theorem shadowed_rule_is_ignored :
    shadowedRequest.withoutLater.grammar.rules.map (·.name) = ["a", "b"] ∧
    shadowedRequest.trace RunState.host emptyRun =
      .warned "a.bnf: duplicate rule 'b', later definition ignored" ::
        shadowedRequest.withoutLater.trace RunState.host emptyRun ∧
    shadowedRequest.result RunState.host emptyRun =
      shadowedRequest.withoutLater.result RunState.host emptyRun := by
  obtain ⟨-, -, -, hruns⟩ := shadowedRequest.later_rules_are_ignored
  obtain ⟨-, -, hignored⟩ := hruns _ _ RunState.host emptyRun
  obtain ⟨htrace, hresult⟩ := hignored RunState.host_ignoresWarnings
  have hwarnings : shadowedRequest.laterWarnings =
      ["a.bnf: duplicate rule 'b', later definition ignored"] := by decide +kernel
  rw [hwarnings] at htrace
  exact ⟨by decide +kernel, htrace, hresult⟩

end Generation.Request

end GrammarForge
