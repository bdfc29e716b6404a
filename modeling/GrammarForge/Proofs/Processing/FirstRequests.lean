import GrammarForge.Proofs.Processing.Directories
import GrammarForge.Proofs.Processing.Requests

/-!
# The first request of a name counts

After a round a store in memory holds what was requested in it, every name once and with the text of
its first request. What was known before the round is never created, and what is known when it is
requested stays as it is.
-/

namespace GrammarForge

open Generation

namespace Processor

variable {δ σ ω : Type} [DiagnosticSink δ] [ArtifactStore σ ω]

/-- The requests of a round, in order. -/
def roundRequests (p : Processor δ σ) : List (Requested (RunState δ σ)) :=
  p.toRunState.requestsOfAll p.environment p.definition p.queue.pending

end Processor

namespace RunState

variable {σ : Type}

theorem map_historyOf (rs : List (Requested σ)) :
    (historyOf rs).map (·.1) = rs.map (·.artifact.name.text) := by
  simp [historyOf]

/-- The text of a name in a history is that of the first request of the name. -/
theorem firstText_historyOf {rs : List (Requested σ)} {name : String}
    (h : name ∈ rs.map (·.artifact.name.text)) : ∃ r before after,
      rs = before ++ r :: after ∧ r.artifact.name.text = name ∧
        (∀ q ∈ before, q.artifact.name.text ≠ name) ∧
        MemoryStore.firstText (historyOf rs) name = encodeText r.artifact.text := by
  induction rs with
  | nil => cases h
  | cons q rest ih =>
      rw [historyOf_cons, MemoryStore.firstText, List.lookup_cons]
      by_cases hq : q.artifact.name.text = name
      · refine ⟨q, [], rest, rfl, hq, by simp, ?_⟩
        simp [hq]
      · have hbeq : (name == q.artifact.name.text) = false := by simpa using Ne.symm hq
        have hrest : name ∈ rest.map (·.artifact.name.text) :=
          (List.mem_cons.1 h).resolve_left (Ne.symm hq)
        obtain ⟨r, before, after, rfl, hr, hbefore, htext⟩ := ih hrest
        refine ⟨r, q :: before, after, rfl, hr, ?_, ?_⟩
        · exact List.forall_mem_cons.2 ⟨hq, hbefore⟩
        · rw [hbeq]
          exact htext

theorem requests_withGrammar {history : List (String × Bytes)}
    {s : RunState (List Diagnostic) MemoryStore}
    (hfiles : s.files = .withGrammar ["w"] "d" "{ parserClass = P } a ::= B")
    (hs : s.store = .ofHistory ["Types"] [] history) :
    (s.requests .standard .standard (FileSystem.grammarPath "d")).map (·.artifact.name.text) =
      ["Types", "P"] := by
  obtain ⟨g, hparse, hattributes, hrules⟩ : ∃ g, Environment.standard.parseGrammar
      (FileSystem.grammarPath "d") "{ parserClass = P } a ::= B" = .ok g ∧
        g.attributes = [("parserClass", "P")] ∧ g.rules.isEmpty = false :=
    ⟨_, by cbv, rfl, rfl⟩
  obtain ⟨base, hread⟩ := Attempt.readGrammar_grammarPath hparse
  rw [← hfiles] at hread
  obtain ⟨parser, types, hparser, htypes, hparserText, htypesText⟩ :
      ∃ parser types : LogicalName,
        Request.parserName ⟨g, base, "", ""⟩ = .ok parser ∧
        Request.typesName ⟨g, base, "", ""⟩ parser = .ok types ∧
        parser.text = "P" ∧ types.text = "Types" := by
    refine ⟨⟨[], ⟨"P", by cbv, by cbv⟩⟩, ⟨[], ⟨"Types", by cbv, by cbv⟩⟩, ?_, ?_, by cbv, by cbv⟩
    · simp only [Request.parserName, hattributes]
      cbv
    · simp only [Request.typesName, hattributes]
      cbv
  have hnames := requests_of_grammar .standard .standard hread hrules hparser htypes
  rw [grants_ofHistory hs, htypesText] at hnames
  have htexts := congrArg (List.map LogicalName.text) hnames
  rw [List.map_map] at htexts
  refine Eq.trans htexts ?_
  simp [hparserText, htypesText]

end RunState

namespace Processor

open RunState

variable {δ : Type} [DiagnosticSink δ]

theorem runRound_ofHistory {p : Processor δ MemoryStore} {known refused : List String}
    (hstore : p.store = .new known refused) :
    Follow known refused [] p.roundRequests ∧
      p.runRound.2.store = .ofHistory known refused (historyOf p.roundRequests) := by
  change _ ∧ p.drain.toRunState.store = _
  rw [drain_toRunState]
  exact foldl_ofHistory p.environment p.definition p.queue.pending hstore

/-- What a round leaves in a store in memory: the names that were requested, known ones and refused
ones left out, in the order of their first requests and with the texts of these. At any request the
names that have been created have their final contents, and a request of a name that is known has no
effect. -/
theorem first_request_counts {p : Processor δ MemoryStore} {known refused : List String}
    (hstore : p.store = .new known refused) :
    p.runRound.2.store.createdNames =
        (distinct (p.roundRequests.map (·.artifact.name.text))).filter
          (fun name => decide (name ∉ known ∧ name ∉ refused)) ∧
      p.runRound.2.store.createdNames.Nodup ∧
      (∀ name ∈ known, name ∉ p.runRound.2.store.createdNames) ∧
      (∀ name ∈ p.runRound.2.store.createdNames, ∃ r before after,
        p.roundRequests = before ++ r :: after ∧ r.artifact.name.text = name ∧
          (∀ q ∈ before, q.artifact.name.text ≠ name) ∧
          p.runRound.2.store.contents? name = some (encodeText r.artifact.text)) ∧
      (∀ r ∈ p.roundRequests, ∀ name ∈ r.state.store.createdNames,
        name ∈ p.runRound.2.store.createdNames ∧
          r.state.store.contents? name = p.runRound.2.store.contents? name) ∧
      ∀ r ∈ p.roundRequests, r.state.store.contains r.artifact.name.text = true →
        r.state.toWorkspace.request r.artifact.name.text = (.ok .discard, r.state.toWorkspace) ∧
          host.emit r.artifact r.state = (.ok (), r.state) := by
  obtain ⟨hfollow, hfinal⟩ := runRound_ofHistory hstore
  simp only [hfinal, MemoryStore.createdNames_ofHistory]
  refine ⟨?_, ?_, ?_, ?_, ?_, fun r _ h => emit_of_contains h⟩
  · rw [MemoryStore.firstNames, map_historyOf]
    congr 1
    funext name
    simp [MemoryStore.admits]
  · exact (nodup_distinct _).filter _
  · intro name hknown hmem
    exact (MemoryStore.mem_firstNames.1 hmem).2.1 hknown
  · intro name hmem
    have hname := (MemoryStore.mem_firstNames.1 hmem).1
    rw [map_historyOf] at hname
    obtain ⟨r, before, after, hrequests, hr, hbefore, htext⟩ := firstText_historyOf hname
    refine ⟨r, before, after, hrequests, hr, hbefore, ?_⟩
    rw [MemoryStore.contents?_ofHistory, if_pos hmem, htext]
  · intro r hr name hname
    obtain ⟨before, after, hrequests⟩ := List.append_of_mem hr
    rw [hrequests] at hfollow ⊢
    have hstate : r.state.store = .ofHistory known refused (historyOf before) :=
      hfollow.state_store
    rw [hstate, MemoryStore.createdNames_ofHistory] at hname
    rw [hstate, MemoryStore.contents?_ofHistory, MemoryStore.contents?_ofHistory,
      historyOf_append]
    have hmem := (MemoryStore.firstNames_append_prefix (historyOf (r :: after))).subset hname
    rw [if_pos hname, if_pos hmem,
      MemoryStore.firstText_append (MemoryStore.mem_firstNames.1 hname).1]
    exact ⟨hmem, rfl⟩

/-- A grammar that is queued twice, with a types unit that is known. -/
theorem first_request_of_two_counts :
    ∃ p : Processor (List Diagnostic) MemoryStore, p.store = .new ["Types"] [] ∧
      p.roundRequests.map (·.artifact.name.text) = ["Types", "P", "Types", "P"] ∧
      p.runRound.2.store.createdNames = ["P"] := by
  obtain ⟨p, hstore, hnames⟩ : ∃ p : Processor (List Diagnostic) MemoryStore,
      p.store = .new ["Types"] [] ∧
        p.roundRequests.map (·.artifact.name.text) = ["Types", "P", "Types", "P"] := by
    refine ⟨⟨⟨⟨.new ["Types"] [], .withGrammar ["w"] "d" "{ parserClass = P } a ::= B"⟩, []⟩,
      .standard, .standard,
      .ofPaths [FileSystem.grammarPath "d", FileSystem.grammarPath "d"]⟩, rfl, ?_⟩
    have hfirst := attempt_ofHistory .standard .standard (FileSystem.grammarPath "d")
      (s := (⟨⟨.new ["Types"] [], .withGrammar ["w"] "d" "{ parserClass = P } a ::= B"⟩, []⟩ :
        RunState (List Diagnostic) MemoryStore)) MemoryStore.ofHistory_nil.symm
    simp only [roundRequests, GrammarQueue.ofPaths, requestsOfAll, List.map_append]
    rw [requests_withGrammar rfl MemoryStore.ofHistory_nil.symm,
      requests_withGrammar (attemptReporting_files ..) hfirst.2]
    rfl
  refine ⟨p, hstore, hnames, ?_⟩
  rw [(first_request_counts hstore).1, hnames]
  decide

end Processor

end GrammarForge
