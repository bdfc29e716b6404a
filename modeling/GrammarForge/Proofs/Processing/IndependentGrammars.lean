import GrammarForge.Proofs.Processing.Directories
import GrammarForge.Proofs.Processing.Isolation
import GrammarForge.Proofs.Processing.Regeneration
import GrammarForge.Proofs.Store.AgreeingStores

/-!
# Independent grammars may change places

An attempt looks at the store at the names of its own artifacts only, and changes it there only. So
grammars whose artifacts have different names do not see each other: in whatever order they stand in
the queue, each says the same, and the store ends with the same names and contents.
-/

namespace GrammarForge

open Generation DiagnosticSink

/-! ## Artifacts of a grammar -/

/-- The names of the artifacts of a plan. -/
def Generation.Plan.names (p : Plan) : List String :=
  match p.artifacts with
  | .error _ => []
  | .ok artifacts => artifacts.map (·.name.text)

theorem Generation.Plan.names_of_ok {p : Plan} {artifacts : List Artifact}
    (h : p.artifacts = .ok artifacts) : p.names = artifacts.map (·.name.text) := by
  rw [names, h]

namespace Attempt

/-- The names of the artifacts of a grammar. There are none if it cannot be read, has no rules or
has a name that is not valid. -/
def artifactNames (environment : Environment) (definition : ParserDefinition) (files : FileSystem)
    (path : String) : List String :=
  match planOf environment definition files path with
  | .error _ => []
  | .ok p => p.names

variable {environment : Environment} {definition : ParserDefinition} {files : FileSystem}
variable {path base : String} {g : Grammar}

theorem artifactNames_of_plan {p : Plan} (h : planOf environment definition files path = .ok p) :
    artifactNames environment definition files path = p.names := by
  unfold artifactNames
  rw [h]

/-- A grammar with rules and valid names has a types unit and a parser. -/
theorem artifactNames_of_grammar {parser types : LogicalName}
    (hread : readGrammar environment definition files path = .ok (base, g))
    (hrules : g.rules.isEmpty = false)
    (hparser : Request.parserName ⟨g, base, "", ""⟩ = .ok parser)
    (htypes : Request.typesName ⟨g, base, "", ""⟩ parser = .ok types) :
    artifactNames environment definition files path = [types.text, parser.text] := by
  obtain ⟨a, b, hartifacts, rfl, rfl⟩ :=
    Request.plan_artifacts (r := ⟨g, base, "", ""⟩) hrules hparser htypes
  rw [artifactNames_of_plan (planOf_of_ok hread), Plan.names_of_ok hartifacts]
  rfl

/-- A file with the text of a grammar is read. -/
theorem readGrammar_of_text {text : String}
    (hbase : files.canonicalize (directoryOf path) = .ok base)
    (htext : files.readBytes path = .ok (encodeText text))
    (hextension : Path.extension path = ParserDefinition.standard.extension)
    (hparse : Environment.standard.parseGrammar path text = .ok g) :
    readGrammar .standard .standard files path = .ok (base, g) := by
  have hread : files.readText path = .ok text := by
    rw [FileSystem.readText, htext]
    simp [decodeText_encodeText, bind, Except.bind, pure, Except.pure]
  have hunit : Environment.standard.parseText path text .standard = .grammar g := by
    rw [Environment.parseText, if_pos hextension]
    exact congrArg ParsedUnit.ofResult hparse
  refine readGrammar_eq_ok.2 ⟨hbase, ?_⟩
  rw [Environment.parseFile, hread]
  exact congrArg Except.ok hunit

end Attempt

/-! ## Attempts -/

namespace RunState

open MemoryStore

section Emission

variable {δ : Type} [DiagnosticSink δ] {p : String → Prop} {s t : RunState δ MemoryStore}

theorem agreeOn_emit (hs : s.store.IsSound) (a : Artifact) :
    AgreeOn (· ≠ a.name.text) s.store (host.emit a s).2.store := by
  rw [emit_eq_receive]
  exact hs.agreeOn_receive a.name.text (encodeText a.text)

theorem emit_agree {a : Artifact} (h : AgreeOn p s.store t.store) (ha : p a.name.text) :
    (host.emit a s).1 = (host.emit a t).1 ∧
      AgreeOn p (host.emit a s).2.store (host.emit a t).2.store := by
  obtain ⟨hresult, hstores⟩ := h.receive ha (encodeText a.text)
  rw [emit_eq_receive, emit_eq_receive, hresult]
  exact ⟨rfl, hstores⟩

/-- Emission leaves all other names alone. -/
theorem agreeOn_emitAll (artifacts : List Artifact) (hs : s.store.IsSound) :
    AgreeOn (· ∉ artifacts.map (·.name.text)) s.store (host.emitAll artifacts s).2.store := by
  induction artifacts generalizing s with
  | nil => exact .refl hs
  | cons a rest ih =>
      have hfirst : AgreeOn (· ∉ (a :: rest).map (·.name.text)) s.store
          (host.emit a s).2.store :=
        (agreeOn_emit hs a).mono fun name hname heq => hname (by simp [heq])
      rw [Host.emitAll]
      cases hemit : host.emit a s with
      | mk result s' =>
          rw [hemit] at hfirst
          cases result with
          | error e => exact hfirst
          | ok =>
              exact hfirst.trans ((ih hfirst.sound').mono fun name hname hmem =>
                hname (List.mem_cons_of_mem _ hmem))

/-- Emission looks at the names of its artifacts only. -/
theorem emitAll_agree {artifacts : List Artifact} (h : AgreeOn p s.store t.store)
    (hartifacts : ∀ name ∈ artifacts.map (·.name.text), p name) :
    (host.emitAll artifacts s).1 = (host.emitAll artifacts t).1 ∧
      AgreeOn p (host.emitAll artifacts s).2.store (host.emitAll artifacts t).2.store := by
  induction artifacts generalizing s t with
  | nil => exact ⟨rfl, h⟩
  | cons a rest ih =>
      rw [List.map_cons, List.forall_mem_cons] at hartifacts
      obtain ⟨hresult, hstores⟩ := emit_agree h hartifacts.1
      rw [Host.emitAll, Host.emitAll]
      cases hs : host.emit a s with
      | mk result s' =>
          cases ht : host.emit a t with
          | mk result' t' =>
              rw [hs, ht] at hresult hstores
              cases hresult
              cases result with
              | error e => exact ⟨rfl, hstores⟩
              | ok =>
                  obtain ⟨hrest, hrestStores⟩ := ih hstores hartifacts.2
                  simp only [hrest]
                  exact ⟨trivial, hrestStores⟩

variable (environment : Environment) (definition : ParserDefinition)

/-- An attempt leaves all names alone but those of its artifacts. -/
theorem agreeOn_attempt (path : String) (hs : s.store.IsSound) :
    AgreeOn (· ∉ Attempt.artifactNames environment definition s.files path) s.store
      (s.attempt environment definition path).2.store := by
  cases hplan : Attempt.planOf environment definition s.files path with
  | error e =>
      rw [attempt_of_error environment definition hplan]
      exact .refl hs
  | ok plan =>
      rw [attempt_of_plan environment definition hplan, Attempt.artifactNames_of_plan hplan]
      simp only [Plan.run, foldl_warn]
      cases hartifacts : plan.artifacts with
      | error e => exact .refl hs
      | ok artifacts =>
          rw [Plan.names_of_ok hartifacts]
          exact agreeOn_emitAll artifacts
            (s := ⟨s.toWorkspace, DiagnosticSink.emitAll (plan.warnings.map .warning) s.sink⟩) hs

/-- An attempt looks at the names of its artifacts only. -/
theorem attempt_agree {path : String} (hfiles : t.files = s.files) (hsink : t.sink = s.sink)
    (h : AgreeOn p s.store t.store)
    (hnames : ∀ name ∈ Attempt.artifactNames environment definition s.files path, p name) :
    (s.attempt environment definition path).1 = (t.attempt environment definition path).1 ∧
      (s.attempt environment definition path).2.sink =
        (t.attempt environment definition path).2.sink ∧
      AgreeOn p (s.attempt environment definition path).2.store
        (t.attempt environment definition path).2.store := by
  cases hplan : Attempt.planOf environment definition s.files path with
  | error e =>
      have hplan' : Attempt.planOf environment definition t.files path = .error e := by
        rw [hfiles, hplan]
      rw [attempt_of_error environment definition hplan,
        attempt_of_error environment definition hplan']
      exact ⟨rfl, hsink.symm, h⟩
  | ok plan =>
      have hplan' : Attempt.planOf environment definition t.files path = .ok plan := by
        rw [hfiles, hplan]
      rw [Attempt.artifactNames_of_plan hplan] at hnames
      rw [attempt_of_plan environment definition hplan,
        attempt_of_plan environment definition hplan']
      simp only [Plan.run, foldl_warn, hsink]
      cases hartifacts : plan.artifacts with
      | error e => exact ⟨rfl, rfl, h⟩
      | ok artifacts =>
          rw [Plan.names_of_ok hartifacts] at hnames
          obtain ⟨hresult, hstores⟩ := emitAll_agree
            (s := ⟨s.toWorkspace, DiagnosticSink.emitAll (plan.warnings.map .warning) s.sink⟩)
            (t := ⟨t.toWorkspace, DiagnosticSink.emitAll (plan.warnings.map .warning) s.sink⟩)
            h hnames
          refine ⟨congrArg (Except.mapError AttemptError.generation) hresult, ?_, hstores⟩
          simp only [emitAll_sink]

end Emission

/-! ## Rounds -/

variable (environment : Environment) (definition : ParserDefinition)
variable {p : String → Prop} {v w : Workspace MemoryStore}

theorem agreeOn_workspaceAfter (path : String) (hw : w.store.IsSound) :
    AgreeOn (· ∉ Attempt.artifactNames environment definition w.files path) w.store
      (workspaceAfter environment definition path w).store := by
  unfold workspaceAfter
  exact agreeOn_attempt environment definition path
    (s := (⟨w, []⟩ : RunState (List Diagnostic) MemoryStore)) hw

theorem workspaceAfter_agree {path : String} (hfiles : w.files = v.files)
    (h : AgreeOn p v.store w.store)
    (hnames : ∀ name ∈ Attempt.artifactNames environment definition v.files path, p name) :
    diagnosticsOf environment definition path v = diagnosticsOf environment definition path w ∧
      AgreeOn p (workspaceAfter environment definition path v).store
        (workspaceAfter environment definition path w).store := by
  obtain ⟨hresult, hsink, hstores⟩ := attempt_agree environment definition
    (s := (⟨v, []⟩ : RunState (List Diagnostic) MemoryStore)) (t := ⟨w, []⟩) hfiles rfl h hnames
  unfold workspaceAfter diagnosticsOf
  rw [attemptReporting_eq, attemptReporting_eq, hresult, hsink]
  exact ⟨rfl, hstores⟩

/-- Stores that agree on all names agree on all names after the same attempts. -/
theorem workspaceAfterAll_agree {paths : List String} (hfiles : w.files = v.files)
    (h : AgreeOn (fun _ => True) v.store w.store) :
    AgreeOn (fun _ => True) (workspaceAfterAll environment definition paths v).store
      (workspaceAfterAll environment definition paths w).store := by
  induction paths generalizing v w with
  | nil => exact h
  | cons path rest ih =>
      rw [workspaceAfterAll_cons, workspaceAfterAll_cons]
      refine ih ?_ (workspaceAfter_agree environment definition hfiles h fun _ _ => trivial).2
      rw [workspaceAfter_files, workspaceAfter_files, hfiles]

/-- The grammars have no artifact name in common. -/
def Independent (files : FileSystem) (path other : String) : Prop :=
  ∀ name ∈ Attempt.artifactNames environment definition files path,
    name ∉ Attempt.artifactNames environment definition files other

theorem Independent.symm {files : FileSystem} {path other : String}
    (h : Independent environment definition files path other) :
    Independent environment definition files other path :=
  fun name hother hpath => h name hpath hother

/-- A grammar says the same after an attempt at an independent one. -/
theorem diagnosticsOf_after {path other : String} (hw : w.store.IsSound)
    (h : Independent environment definition w.files path other) :
    diagnosticsOf environment definition other
        (workspaceAfter environment definition path w) =
      diagnosticsOf environment definition other w :=
  (workspaceAfter_agree environment definition (workspaceAfter_files ..)
    (agreeOn_workspaceAfter environment definition path hw)
    (h.symm environment definition)).1.symm

/-- Attempts at independent grammars may be made in either order. -/
theorem workspaceAfter_comm {path other : String} (hw : w.store.IsSound)
    (h : Independent environment definition w.files path other) :
    AgreeOn (fun _ => True)
      (workspaceAfter environment definition other
        (workspaceAfter environment definition path w)).store
      (workspaceAfter environment definition path
        (workspaceAfter environment definition other w)).store := by
  -- Outside of the names of one grammar, the attempt at it may be left out.
  have hskip {path other : String} (h : Independent environment definition w.files path other) :
      AgreeOn (· ∉ Attempt.artifactNames environment definition w.files other)
        (workspaceAfter environment definition other
          (workspaceAfter environment definition path w)).store
        (workspaceAfter environment definition path
          (workspaceAfter environment definition other w)).store := by
    have hframe := agreeOn_workspaceAfter environment definition other hw
    have hagree := (workspaceAfter_agree environment definition (workspaceAfter_files ..) hframe
      h).2
    have hlast := agreeOn_workspaceAfter environment definition other hagree.sound
    rw [workspaceAfter_files] at hlast
    exact hlast.symm.trans hagree
  have hpath := hskip h
  have hother := (hskip (h.symm environment definition)).symm
  refine { hpath with contents := fun name _ => ?_ }
  by_cases hname : name ∈ Attempt.artifactNames environment definition w.files path
  · exact hpath.contents name (h name hname)
  · exact hother.contents name hname

variable {files : FileSystem} {paths paths' : List String}

/-- In a list of independent grammars each says what it says by itself. -/
theorem blocks_of_independent (hfiles : w.files = files) (hw : w.store.IsSound)
    (h : paths.Pairwise (Independent environment definition files)) :
    blocks environment definition paths w =
      paths.map fun path => diagnosticsOf environment definition path w := by
  induction h generalizing w with
  | nil => rfl
  | @cons path rest hpath _ ih =>
      have hframe := agreeOn_workspaceAfter environment definition path hw
      rw [blocks, ih ((workspaceAfter_files ..).trans hfiles) hframe.sound', List.map_cons]
      refine congrArg _ (List.map_congr_left fun other hother => ?_)
      exact diagnosticsOf_after environment definition hw (hfiles ▸ hpath other hother)

/-- Independent grammars may be attempted in any order. -/
theorem workspaceAfterAll_perm (hperm : paths.Perm paths') (hfiles : w.files = files)
    (hw : w.store.IsSound) (h : paths.Pairwise (Independent environment definition files)) :
    AgreeOn (fun _ => True) (workspaceAfterAll environment definition paths w).store
      (workspaceAfterAll environment definition paths' w).store := by
  induction hperm generalizing w with
  | nil => exact .refl hw
  | cons path _ ih =>
      have hframe := agreeOn_workspaceAfter environment definition path hw
      rw [workspaceAfterAll_cons, workspaceAfterAll_cons]
      exact ih ((workspaceAfter_files ..).trans hfiles) hframe.sound' h.of_cons
  | swap path other _ =>
      rw [workspaceAfterAll_cons, workspaceAfterAll_cons, workspaceAfterAll_cons,
        workspaceAfterAll_cons]
      refine workspaceAfterAll_agree environment definition ?_ ?_
      · simp only [workspaceAfter_files]
      · have hfirst := (List.pairwise_cons.1 h).1 path List.mem_cons_self
        exact workspaceAfter_comm environment definition hw (hfiles ▸ hfirst)
  | trans hfirst _ ih ih' =>
      have h' := hfirst.pairwise h fun hindependent => hindependent.symm environment definition
      exact (ih hfiles hw h).trans (ih' hfiles hw h')

end RunState

namespace Processor

variable {δ : Type} [DiagnosticSink δ]

/-- A round over independent grammars in any order ends with the same names in the store, and with
the same contents. Each grammar has the block of diagnostics that it has by itself. The store is
sound in every state that it can reach. -/
theorem independent_grammars_commute (p : Processor δ MemoryStore) (hsound : p.store.IsSound)
    {paths paths' : List String} (hperm : paths.Perm paths')
    (h : paths.Pairwise (RunState.Independent p.environment p.definition p.files)) :
    let one := (p.withPending paths).runRound.2
    let other := (p.withPending paths').runRound.2
    let block := fun path => RunState.diagnosticsOf p.environment p.definition path p.toWorkspace
    (∀ name, name ∈ one.store.createdNames ↔ name ∈ other.store.createdNames) ∧
      (∀ name, one.store.contents? name = other.store.contents? name) ∧
      p.blocks paths = paths.map block ∧ p.blocks paths' = paths'.map block ∧
      one.sink = emitAll (paths.map block).flatten p.sink ∧
      other.sink = emitAll (paths'.map block).flatten p.sink := by
  intro one other block
  have h' := hperm.pairwise h fun hindependent =>
    RunState.Independent.symm p.environment p.definition hindependent
  have hagree := RunState.workspaceAfterAll_perm p.environment p.definition hperm
    (w := p.toWorkspace) rfl hsound h
  rw [← workspace_runRound, ← workspace_runRound] at hagree
  have hblocks : p.blocks paths = paths.map block :=
    RunState.blocks_of_independent p.environment p.definition rfl hsound h
  have hblocks' : p.blocks paths' = paths'.map block :=
    RunState.blocks_of_independent p.environment p.definition rfl hsound h'
  refine ⟨fun name => ?_, fun name => hagree.contents name trivial, hblocks, hblocks', ?_, ?_⟩
  · have hsame := hagree.contents name trivial
    exact hagree.sound.mem_createdNames.trans (hsame ▸ hagree.sound'.mem_createdNames.symm)
  · rw [← hblocks]
    exact sink_runRound paths p
  · rw [← hblocks']
    exact sink_runRound paths' p

end Processor

/-! ## Two grammar files -/

/-- The current directory has two grammar files. -/
def FileSystem.withGrammars (first second : String) : FileSystem :=
  ⟨["w"], [(["w"], .directory), (["w", "a.bnf"], .file (encodeText first)),
    (["w", "b.bnf"], .file (encodeText second))], by simp⟩

/-- A grammar that names its parser. -/
def parserText : String := "\x7b parserClass = P \x7d a ::= B"

/-- A grammar that names both of its units. -/
def unitsText : String := "\x7b parserClass = Q elementTypeHolderClass = R \x7d a ::= B"

theorem artifactNames_parserText :
    Attempt.artifactNames .standard .standard (.withGrammars parserText unitsText) "a.bnf" =
      ["Types", "P"] := by
  obtain ⟨g, hparse, hattributes, hrules⟩ : ∃ g,
      Environment.standard.parseGrammar "a.bnf" parserText = .ok g ∧
        g.attributes = [("parserClass", "P")] ∧ g.rules.isEmpty = false := ⟨_, by cbv, rfl, rfl⟩
  have hread : Attempt.readGrammar .standard .standard (.withGrammars parserText unitsText)
      "a.bnf" = .ok ("/w", g) := Attempt.readGrammar_of_text rfl rfl (by decide) hparse
  have hparser : Request.parserName ⟨g, "/w", "", ""⟩ = .ok ⟨[], ⟨"P", by cbv, by cbv⟩⟩ := by
    simp only [Request.parserName, hattributes]
    cbv
  have htypes : Request.typesName ⟨g, "/w", "", ""⟩ ⟨[], ⟨"P", by cbv, by cbv⟩⟩ =
      .ok ⟨[], ⟨"Types", by cbv, by cbv⟩⟩ := by
    simp only [Request.typesName, hattributes]
    cbv
  rw [Attempt.artifactNames_of_grammar hread hrules hparser htypes]
  cbv

theorem artifactNames_unitsText :
    Attempt.artifactNames .standard .standard (.withGrammars parserText unitsText) "b.bnf" =
      ["R", "Q"] := by
  obtain ⟨g, hparse, hattributes, hrules⟩ : ∃ g,
      Environment.standard.parseGrammar "b.bnf" unitsText = .ok g ∧
        g.attributes = [("parserClass", "Q"), ("elementTypeHolderClass", "R")] ∧
        g.rules.isEmpty = false := ⟨_, by cbv, rfl, rfl⟩
  have hread : Attempt.readGrammar .standard .standard (.withGrammars parserText unitsText)
      "b.bnf" = .ok ("/w", g) := Attempt.readGrammar_of_text rfl rfl (by decide) hparse
  have hparser : Request.parserName ⟨g, "/w", "", ""⟩ = .ok ⟨[], ⟨"Q", by cbv, by cbv⟩⟩ := by
    simp only [Request.parserName, hattributes]
    cbv
  have htypes : Request.typesName ⟨g, "/w", "", ""⟩ ⟨[], ⟨"Q", by cbv, by cbv⟩⟩ =
      .ok ⟨[], ⟨"R", by cbv, by cbv⟩⟩ := by
    simp only [Request.typesName, hattributes]
    cbv
  rw [Attempt.artifactNames_of_grammar hread hrules hparser htypes]
  cbv

namespace Processor

/-- A processor for the two grammars. -/
def twoGrammars : Processor (List Diagnostic) MemoryStore :=
  ⟨⟨⟨.new [] [], .withGrammars parserText unitsText⟩, []⟩, .standard, .standard, .empty⟩

/-- Two grammars with artifacts of their own. -/
theorem two_grammars_commute :
    (∀ name, (twoGrammars.withPending ["a.bnf", "b.bnf"]).runRound.2.store.contents? name =
      (twoGrammars.withPending ["b.bnf", "a.bnf"]).runRound.2.store.contents? name) ∧
      twoGrammars.blocks ["b.bnf", "a.bnf"] =
        (twoGrammars.blocks ["a.bnf", "b.bnf"]).reverse := by
  have hindependent : ["a.bnf", "b.bnf"].Pairwise (RunState.Independent twoGrammars.environment
      twoGrammars.definition twoGrammars.files) := by
    simp [RunState.Independent, twoGrammars, artifactNames_parserText, artifactNames_unitsText]
  obtain ⟨-, hcontents, hblocks, hblocks', -⟩ := twoGrammars.independent_grammars_commute
    (MemoryStore.isSound_new [] []) (.swap "b.bnf" "a.bnf" []) hindependent
  refine ⟨hcontents, ?_⟩
  rw [hblocks, hblocks']
  rfl

end Processor

end GrammarForge
