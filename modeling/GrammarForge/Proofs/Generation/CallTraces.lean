import GrammarForge.Generation.Recorder
import GrammarForge.Proofs.Generation.Plans
import GrammarForge.Proofs.Processing.Reports

/-!
# Traces of generation

What a host is asked for when code is generated, in order and with its answers. The warnings come
first. Then the types unit is written, and the parser if nothing has failed until then.
-/

namespace GrammarForge.Generation

variable {σ ω : Type}

/-! ## Calls -/

/-- One call of a host and, where a call can fail, what came of it. -/
inductive Call where
  | warned (text : String)
  | opened (name : LogicalName) (path : String) (answer : Except SystemError Unit)
  | wrote (bytes : Bytes) (answer : Except SystemError Unit)
  | flushed (answer : Except SystemError Unit)
  | closed

/-- The name and the path for which a sink is asked. -/
def Call.opening? : Call → Option (LogicalName × String)
  | opened name path _ => some (name, path)
  | _ => none

/-- The same host, with a record of its calls. -/
def Host.traced (host : Host σ ω) : Host (σ × List Call) ω where
  warn text s := (host.warn text s.1, s.2 ++ [.warned text])
  openSink name path s :=
    let (answer, t) := host.openSink name path s.1
    (answer, t, s.2 ++ [.opened name path (answer.map fun _ => ())])
  write bytes sink s :=
    let (answer, sink, t) := host.write bytes sink s.1
    (answer, sink, t, s.2 ++ [.wrote bytes answer])
  flush sink s :=
    let (answer, sink, t) := host.flush sink s.1
    (answer, sink, t, s.2 ++ [.flushed answer])
  close sink s := (host.close sink s.1, s.2 ++ [.closed])

theorem Host.emulates_traced (host : Host σ ω) : host.Emulates host.traced Prod.fst :=
  ⟨fun _ _ _ => rfl, fun _ _ _ => rfl, fun _ _ => rfl, fun _ _ => rfl⟩

theorem Host.foldl_warn_traced (host : Host σ ω) (warnings : List String) (s : σ × List Call) :
    warnings.foldl (fun s text => host.traced.warn text s) s =
      (warnings.foldl (fun s text => host.warn text s) s.1, s.2 ++ warnings.map .warned) := by
  induction warnings generalizing s with
  | nil => simp
  | cons text rest ih =>
      rw [List.foldl_cons, List.foldl_cons, ih]
      simp [traced]

/-- The record makes no difference to what is done. -/
theorem Plan.run_traced (host : Host σ ω) (p : Plan) (s : σ) (calls : List Call) :
    (p.run host.traced (s, calls)).1 = (p.run host s).1 ∧
      (p.run host.traced (s, calls)).2.1 = (p.run host s).2 := by
  simp only [Plan.run, host.foldl_warn_traced]
  cases p.artifacts with
  | error e => exact ⟨rfl, rfl⟩
  | ok artifacts =>
      have hemit := host.emulates_traced.emitAll artifacts
        (p.warnings.foldl (fun s text => host.warn text s) s, calls ++ p.warnings.map .warned)
      simp only at hemit
      exact ⟨(congrArg (·.1) hemit).symm, (congrArg (·.2) hemit).symm⟩

/-! ## Artifacts -/

/-- How far an artifact got. -/
inductive Outcome where
  | refused (cause : SystemError)
  | unwritten (cause : SystemError)
  | unflushed (cause : SystemError)
  | complete
deriving DecidableEq

namespace Outcome

/-- The calls of an artifact that got this far. What is to be written is always its whole text. -/
def calls (a : Artifact) : Outcome → List Call
  | refused e => [.opened a.name a.path (.error e)]
  | unwritten e =>
    [.opened a.name a.path (.ok ()), .wrote (encodeText a.text) (.error e), .closed]
  | unflushed e =>
    [.opened a.name a.path (.ok ()), .wrote (encodeText a.text) (.ok ()), .flushed (.error e),
      .closed]
  | complete =>
    [.opened a.name a.path (.ok ()), .wrote (encodeText a.text) (.ok ()), .flushed (.ok ()),
      .closed]

def result (a : Artifact) : Outcome → Except Error Unit
  | refused e => .error (.cannotOpen a.name e)
  | unwritten e => .error (.cannotWrite a.name e)
  | unflushed e => .error (.cannotWrite a.name e)
  | complete => .ok ()

theorem openings_calls (a : Artifact) (o : Outcome) :
    (o.calls a).filterMap Call.opening? = [(a.name, a.path)] := by
  cases o <;> rfl

theorem eq_complete_of_result {a : Artifact} {o : Outcome} (h : o.result a = .ok ()) :
    o = .complete := by
  cases o with
  | complete => rfl
  | refused e => cases h
  | unwritten e => cases h
  | unflushed e => cases h

end Outcome

/-- Once there is a sink, the text is written and flushed, up to the first failure. -/
theorem Host.fill_traced (host : Host σ ω) (a : Artifact) (sink : ω) (s : σ) (calls : List Call) :
    ∃ (o : Outcome) (t : σ) (answer : Except SystemError Unit),
      host.traced.fill (encodeText a.text) sink (s, calls ++ [.opened a.name a.path (.ok ())]) =
        (answer, t, calls ++ o.calls a) ∧
      answer.mapError (.cannotWrite a.name) = o.result a := by
  cases hwrite : host.write (encodeText a.text) sink s with
  | mk answer rest =>
      obtain ⟨sink, written⟩ := rest
      cases answer with
      | error e =>
          refine ⟨.unwritten e, host.close sink written, .error e, ?_, rfl⟩
          simp [fill, traced, hwrite, Outcome.calls]
      | ok =>
          cases hflush : host.flush sink written with
          | mk answer rest =>
              obtain ⟨sink, flushed⟩ := rest
              cases answer with
              | error e =>
                  refine ⟨.unflushed e, host.close sink flushed, .error e, ?_, rfl⟩
                  simp [fill, traced, hwrite, hflush, Outcome.calls]
              | ok =>
                  refine ⟨.complete, host.close sink flushed, .ok (), ?_, rfl⟩
                  simp [fill, traced, hwrite, hflush, Outcome.calls]

/-- What is called for an artifact depends on how far it gets only. -/
theorem Host.emit_traced (host : Host σ ω) (a : Artifact) (s : σ) (calls : List Call) :
    ∃ (o : Outcome) (t : σ), host.traced.emit a (s, calls) =
      (o.result a, t, calls ++ o.calls a) := by
  cases hopen : host.openSink a.name a.path s with
  | mk answer opened =>
      have htraced : host.traced.openSink a.name a.path (s, calls) =
          (answer, opened, calls ++ [.opened a.name a.path (answer.map fun _ => ())]) := by
        simp only [traced, hopen]
      cases answer with
      | error e =>
          refine ⟨.refused e, opened, ?_⟩
          simp only [emit, htraced]
          rfl
      | ok sink =>
          obtain ⟨o, t, answer, hfill, hresult⟩ := host.fill_traced a sink opened calls
          refine ⟨o, t, ?_⟩
          simp only [emit, htraced, Except.map, hfill, hresult]

/-- The calls and the result of emission. After a failure nothing is called. -/
inductive Emission : List Artifact → List Call → Except Error (List LogicalName) → Prop
  | nil : Emission [] [] (.ok [])
  | cons {a : Artifact} {rest : List Artifact} {calls : List Call}
      {result : Except Error (List LogicalName)} : Emission rest calls result →
      Emission (a :: rest) (Outcome.complete.calls a ++ calls) (result.map (a.name :: ·))
  | failed {a : Artifact} {rest : List Artifact} {o : Outcome} {e : Error} :
      o.result a = .error e → Emission (a :: rest) (o.calls a) (.error e)

theorem Host.emitAll_traced (host : Host σ ω) (artifacts : List Artifact) (s : σ)
    (calls : List Call) : ∃ t more result,
      host.traced.emitAll artifacts (s, calls) = (result, t, calls ++ more) ∧
        Emission artifacts more result := by
  induction artifacts generalizing s calls with
  | nil => exact ⟨s, [], .ok [], by simp [emitAll], .nil⟩
  | cons a rest ih =>
      obtain ⟨o, t, hemit⟩ := host.emit_traced a s calls
      cases hresult : o.result a with
      | error e =>
          refine ⟨t, o.calls a, .error e, ?_, .failed hresult⟩
          simp only [emitAll, hemit, hresult]
      | ok =>
          obtain ⟨u, more, result, hrest, hemission⟩ := ih t (calls ++ o.calls a)
          have hcomplete := Outcome.eq_complete_of_result hresult
          subst hcomplete
          refine ⟨u, _, _, ?_, .cons hemission⟩
          simp only [emitAll, hemit, hresult, hrest, List.append_assoc]

/-- The second of two artifacts is begun when the first is complete. -/
theorem Emission.of_pair {a b : Artifact} {calls : List Call}
    {result : Except Error (List LogicalName)} (h : Emission [a, b] calls result) :
    ∃ first second : Outcome,
      calls = first.calls a ++ (if first = .complete then second.calls b else []) ∧
        result = (first.result a).bind fun _ =>
          (second.result b).map fun _ => [a.name, b.name] := by
  cases h with
  | failed hfirst =>
      rename_i first e
      have hne : first ≠ .complete := by
        rintro rfl
        cases hfirst
      exact ⟨first, first, by simp [hne], by simp [hfirst, Except.bind]⟩
  | cons hrest =>
      cases hrest with
      | failed hsecond =>
          rename_i second e
          refine ⟨.complete, second, by simp, ?_⟩
          rw [hsecond]
          rfl
      | cons hnil =>
          cases hnil
          exact ⟨.complete, .complete, by simp, rfl⟩

/-- If nothing fails, all artifacts are written. -/
theorem Emission.names_eq {artifacts : List Artifact} {calls : List Call}
    {result : Except Error (List LogicalName)} (h : Emission artifacts calls result)
    {names : List LogicalName} (hok : result = .ok names) : names = artifacts.map (·.name) := by
  induction h generalizing names with
  | nil =>
      cases hok
      rfl
  | @cons a rest calls result _ ih =>
      cases hresult : result with
      | error e =>
          rw [hresult] at hok
          cases hok
      | ok more =>
          rw [hresult] at hok
          cases hok
          rw [List.map_cons, ← ih hresult]
  | failed => cases hok

/-! ## Requests -/

namespace Request

/-- The warnings about a grammar, given what qualifies the default name of its parser. -/
def warningsFor (g : Grammar) (package : String) : List String :=
  (plan ⟨g, "", "", package⟩).warnings

theorem warnings_eq (r : Request) : r.plan.warnings =
    if r.grammar.rules.isEmpty then [Warning.noRules.message (fileNameOf r.grammar)]
    else (ruleWarnings (Analysis.ofGrammar r.grammar) ++ r.nameWarnings).map
      (·.message (fileNameOf r.grammar)) := apply_ite Plan.warnings _ _ _

theorem plan_warnings (r : Request) : r.plan.warnings = warningsFor r.grammar r.package := by
  have hname : nameWarnings ⟨r.grammar, "", "", r.package⟩ = r.nameWarnings := rfl
  rw [warningsFor, warnings_eq, warnings_eq, hname]

/-- The calls when a request is carried out. -/
def trace (r : Request) (host : Host σ ω) (s : σ) : List Call :=
  (r.plan.run host.traced (s, [])).2.2

/-- The result of a request. -/
def result (r : Request) (host : Host σ ω) (s : σ) : Except Error (List LogicalName) :=
  (r.plan.run host s).1

/-- Without artifacts there are only warnings. -/
theorem trace_of_error {r : Request} {e : Error} (h : r.plan.artifacts = .error e)
    (host : Host σ ω) (s : σ) :
    r.trace host s = (warningsFor r.grammar r.package).map .warned ∧
      r.result host s = .error e := by
  rw [trace, result, Plan.run, Plan.run, h, ← plan_warnings]
  simp [host.foldl_warn_traced]

theorem trace_of_ok {r : Request} {artifacts : List Artifact} (h : r.plan.artifacts = .ok artifacts)
    (host : Host σ ω) (s : σ) : ∃ calls,
      r.trace host s = (warningsFor r.grammar r.package).map .warned ++ calls ∧
        Emission artifacts calls (r.result host s) := by
  have hresult := (r.plan.run_traced host s []).1
  have hrun : r.plan.run host.traced (s, []) = host.traced.emitAll artifacts
      (r.plan.warnings.foldl (fun s text => host.warn text s) s, r.plan.warnings.map .warned) := by
    rw [Plan.run, h]
    simp only [host.foldl_warn_traced, List.nil_append]
  obtain ⟨t, calls, result, hemit, hemission⟩ := host.emitAll_traced artifacts
    (r.plan.warnings.foldl (fun s text => host.warn text s) s) (r.plan.warnings.map .warned)
  rw [hemit] at hrun
  rw [hrun] at hresult
  refine ⟨calls, ?_, ?_⟩
  · rw [trace, hrun, plan_warnings]
  · rw [Request.result, ← hresult]
    exact hemission

/-- If a text that must be a name is none, there are no artifacts. -/
theorem artifacts_of_invalid {r : Request} (hrules : r.grammar.rules ≠ [])
    (hinvalid : ∃ needed ∈ r.neededNames, ∀ n, LogicalName.parse needed.2 ≠ .ok n) :
    ∃ source text cause, (source, text) ∈ r.neededNames ∧
      LogicalName.parse text = .error cause ∧
        r.plan.artifacts = .error (.invalidName source cause) := by
  rw [plan_artifacts_eq hrules, r.parserName_eq]
  cases hparser : LogicalName.parse r.parserSource.2 with
  | error cause =>
      exact ⟨r.parserSource.1, r.parserSource.2, cause, by simp [neededNames], hparser, rfl⟩
  | ok parser =>
      obtain ⟨⟨source, text⟩, hneeded, hname⟩ := hinvalid
      rcases List.mem_cons.1 hneeded with hfirst | hsecond
      · rw [← hfirst] at hparser
        exact absurd hparser (hname parser)
      · have htypes : r.typesSource? = some (source, text) := by simpa using hsecond
        cases hparse : LogicalName.parse text with
        | ok n => exact absurd hparse (hname n)
        | error cause =>
            refine ⟨source, text, cause, hneeded, hparse, ?_⟩
            simp only [Except.mapError, typesName_of_some htypes, hparse]

/-- If all texts that must be names are, the artifacts are the types unit and the parser. -/
theorem artifacts_of_valid {r : Request} (hrules : r.grammar.rules ≠ [])
    (hvalid : ∀ needed ∈ r.neededNames, ∃ n, LogicalName.parse needed.2 = .ok n) :
    ∃ parser types : LogicalName, r.plan.artifacts = .ok (r.units parser types) ∧
      LogicalName.parse r.parserSource.2 = .ok parser ∧
      (∀ source text, r.typesSource? = some (source, text) →
        LogicalName.parse text = .ok types) ∧
      (r.typesSource? = none → types = ⟨parser.modules, defaultTypesSegment⟩) := by
  obtain ⟨parser, hparser⟩ := hvalid r.parserSource (by simp [neededNames])
  rw [plan_artifacts_eq hrules, r.parserName_eq, hparser]
  cases htypes : r.typesSource? with
  | none =>
      refine ⟨parser, ⟨parser.modules, defaultTypesSegment⟩, ?_, rfl, ?_, fun _ => rfl⟩
      · simp only [Except.mapError, typesName_of_none htypes]
      · rintro _ _ ⟨⟩
  | some needed =>
      obtain ⟨source, text⟩ := needed
      obtain ⟨types, hparse⟩ := hvalid (source, text) (by simp [neededNames, htypes])
      refine ⟨parser, types, ?_, rfl, ?_, ?_⟩
      · simp only [Except.mapError, typesName_of_some htypes, hparse]
      · rintro _ _ ⟨rfl⟩
        exact hparse
      · rintro ⟨⟩

theorem units_eq (r : Request) (parser types : LogicalName) : ∃ a b : Artifact,
    r.units parser types = [a, b] ∧ a.name = types ∧ b.name = parser ∧
      ∀ artifact ∈ [a, b], artifact.path = Path.join (Path.join r.baseDirectory
        ((r.grammar.attributes.get? directoryAttribute).getD "gen"))
          artifact.name.relativePath :=
  ⟨_, _, rfl, rfl, rfl, by simp [artifact, directory, defaultDirectory]⟩

/-- Two artifacts are opened, written and flushed, one after the other. -/
theorem trace_of_pair {r : Request} {a b : Artifact} (h : r.plan.artifacts = .ok [a, b])
    (host : Host σ ω) (s : σ) : ∃ first second : Outcome,
      r.trace host s = (warningsFor r.grammar r.package).map .warned ++ (first.calls a ++
        if first = .complete then second.calls b else []) ∧
      (r.trace host s).filterMap Call.opening? = (a.name, a.path) ::
        (if first = .complete then [(b.name, b.path)] else []) ∧
      r.result host s = ((first.result a).bind fun _ =>
        (second.result b).map fun _ => [a.name, b.name]) ∧
      (r.result host s = .ok [a.name, b.name] ↔ first = .complete ∧ second = .complete) := by
  obtain ⟨calls, htrace, hemission⟩ := trace_of_ok h host s
  obtain ⟨first, second, rfl, hresult⟩ := hemission.of_pair
  have hwarnings : ((warningsFor r.grammar r.package).map Call.warned).filterMap Call.opening? =
      [] := by
    simp [List.filterMap_map, Function.comp_def, Call.opening?]
  refine ⟨first, second, htrace, ?_, hresult, ?_⟩
  · rw [htrace, List.filterMap_append, hwarnings, List.filterMap_append, first.openings_calls]
    split
    · simp [second.openings_calls]
    · simp
  · rw [hresult]
    constructor
    · intro hok
      cases hfirst : first.result a with
      | error e =>
          rw [hfirst] at hok
          cases hok
      | ok =>
          cases hsecond : second.result b with
          | error e =>
              rw [hfirst, hsecond] at hok
              cases hok
          | ok =>
              exact ⟨Outcome.eq_complete_of_result hfirst,
                Outcome.eq_complete_of_result hsecond⟩
    · rintro ⟨rfl, rfl⟩
      rfl

/-- What any host is asked for, and what comes of it. A grammar without rules gets one warning. For
any other the warnings, on which host, directory and module name have no influence, come before
everything else. If a text that must be a name is none, that is all. Otherwise there are two
artifacts that do not depend on the host: the types unit, and the parser, which is begun when the
types unit is complete. -/
theorem trace_and_result (r : Request) :
    (∀ (σ ω : Type) (host : Host σ ω) (s : σ), r.plan.run host.traced (s, []) =
      (r.result host s, (r.plan.run host s).2, r.trace host s)) ∧
    (r.grammar.rules = [] → ∀ (σ ω : Type) (host : Host σ ω) (s : σ),
      r.trace host s = [.warned (Warning.noRules.message (fileNameOf r.grammar))] ∧
        r.result host s = .ok []) ∧
    (r.grammar.rules ≠ [] →
      (∃ needed ∈ r.neededNames, ∀ n, LogicalName.parse needed.2 ≠ .ok n) →
      ∃ source text cause, (source, text) ∈ r.neededNames ∧
        LogicalName.parse text = .error cause ∧
        ∀ (σ ω : Type) (host : Host σ ω) (s : σ),
          r.trace host s = (warningsFor r.grammar r.package).map .warned ∧
            r.result host s = .error (.invalidName source cause)) ∧
    (r.grammar.rules ≠ [] →
      (∀ needed ∈ r.neededNames, ∃ n, LogicalName.parse needed.2 = .ok n) →
      ∃ types parser : Artifact, r.units parser.name types.name = [types, parser] ∧
        LogicalName.parse r.parserSource.2 = .ok parser.name ∧
        (∀ source text, r.typesSource? = some (source, text) →
          LogicalName.parse text = .ok types.name) ∧
        (r.typesSource? = none → types.name = ⟨parser.name.modules, defaultTypesSegment⟩) ∧
        (∀ a ∈ [types, parser], a.path = Path.join (Path.join r.baseDirectory
          ((r.grammar.attributes.get? directoryAttribute).getD "gen")) a.name.relativePath) ∧
        ∀ (σ ω : Type) (host : Host σ ω) (s : σ), ∃ first second : Outcome,
          r.trace host s = (warningsFor r.grammar r.package).map .warned ++ (first.calls types ++
            if first = .complete then second.calls parser else []) ∧
          (r.trace host s).filterMap Call.opening? = (types.name, types.path) ::
            (if first = .complete then [(parser.name, parser.path)] else []) ∧
          r.result host s = ((first.result types).bind fun _ =>
            (second.result parser).map fun _ => [types.name, parser.name]) ∧
          (r.result host s = .ok [types.name, parser.name] ↔
            first = .complete ∧ second = .complete)) := by
  refine ⟨?_, ?_, ?_, ?_⟩
  · intro σ ω host s
    obtain ⟨hresult, hstate⟩ := r.plan.run_traced host s []
    exact Prod.ext hresult (Prod.ext hstate rfl)
  · intro hrules σ ω host s
    have hplan := plan_of_no_rules hrules
    rw [trace, result, hplan]
    exact ⟨rfl, rfl⟩
  · intro hrules hinvalid
    obtain ⟨source, text, cause, hneeded, hparse, hartifacts⟩ :=
      artifacts_of_invalid hrules hinvalid
    exact ⟨source, text, cause, hneeded, hparse,
      fun σ ω host s => trace_of_error hartifacts host s⟩
  · intro hrules hvalid
    obtain ⟨parser, types, hartifacts, hparser, htypes, hdefault⟩ :=
      artifacts_of_valid hrules hvalid
    obtain ⟨a, b, hunits, rfl, rfl, hpaths⟩ := r.units_eq parser types
    rw [hunits] at hartifacts
    exact ⟨a, b, hunits, hparser, htypes, hdefault, hpaths,
      fun σ ω host s => trace_of_pair hartifacts host s⟩

/-- A grammar with one rule that gives the name of its parser. -/
def smallRequest : Request :=
  ⟨⟨"g/json.bnf", [("parserClass", "demo::JsonParser")], [⟨"root", false, .token "A", ⟨0, 0⟩⟩]⟩,
    "g", "", ""⟩

/-- When the types unit cannot be flushed, the parser is not asked for. -/
theorem unflushed_types_are_last : ∃ types parser : Artifact,
    smallRequest.units parser.name types.name = [types, parser] ∧
      types.name.text = "demo::Types" ∧ types.path = "g/gen/demo/types.rs" ∧
      (smallRequest.trace (Recorder.host ⟨[], ["demo::Types"], [], false⟩) []).filterMap
        Call.opening? = [(types.name, types.path)] ∧
      smallRequest.result (Recorder.host ⟨[], ["demo::Types"], [], false⟩) [] ≠
        .ok [types.name, parser.name] := by
  have hrules : smallRequest.grammar.rules ≠ [] := by simp [smallRequest]
  have hvalid : ∀ needed ∈ smallRequest.neededNames, ∃ n, LogicalName.parse needed.2 = .ok n := by
    have hok : ∀ needed ∈ smallRequest.neededNames,
        (LogicalName.parse needed.2).toOption.isSome = true := by decide +kernel
    intro needed hneeded
    have hsome := hok needed hneeded
    cases hparse : LogicalName.parse needed.2 with
    | ok n => exact ⟨n, rfl⟩
    | error e => simp [hparse, Except.toOption] at hsome
  obtain ⟨-, -, -, hlaw⟩ := trace_and_result smallRequest
  obtain ⟨types, parser, hunits, hparser, -, hdefault, hpaths, hhosts⟩ := hlaw hrules hvalid
  obtain ⟨first, second, -, hopenings, -, hresult⟩ :=
    hhosts _ _ (Recorder.host ⟨[], ["demo::Types"], [], false⟩) []
  have hparserName : LogicalName.parse smallRequest.parserSource.2 =
      .ok ⟨[⟨"demo", by decide +kernel, by decide +kernel⟩],
        ⟨"JsonParser", by decide +kernel, by decide +kernel⟩⟩ := by decide +kernel
  rw [hparserName] at hparser
  have htypesName := hdefault (by decide +kernel)
  rw [← Except.ok.inj hparser] at htypesName
  have hlength : ((smallRequest.trace (Recorder.host ⟨[], ["demo::Types"], [], false⟩)
      []).filterMap Call.opening?).length = 1 := by decide +kernel
  have hfirst : first ≠ .complete := by
    rintro rfl
    rw [hopenings] at hlength
    cases hlength
  have htext : (⟨[⟨"demo", by decide +kernel, by decide +kernel⟩], defaultTypesSegment⟩ :
      LogicalName).text = "demo::Types" := by decide +kernel
  have hpath : Path.join (Path.join smallRequest.baseDirectory
      ((smallRequest.grammar.attributes.get? directoryAttribute).getD "gen"))
      (⟨[⟨"demo", by decide +kernel, by decide +kernel⟩], defaultTypesSegment⟩ :
        LogicalName).relativePath = "g/gen/demo/types.rs" := by decide +kernel
  refine ⟨types, parser, hunits, ?_, ?_, ?_, fun hok => hfirst (hresult.1 hok).1⟩
  · exact (congrArg LogicalName.text htypesName).trans htext
  · rw [← htypesName] at hpath
    exact (hpaths types (by simp)).trans hpath
  · rw [hopenings, if_neg hfirst]

end Request

end GrammarForge.Generation
