import GrammarForge.Proofs.FileSystem.Entries
import GrammarForge.Proofs.Generation.Plans
import GrammarForge.Proofs.Processing.DirectoryRuns

/-!
# Names that share a file

A store in a directory tells artifacts apart by their names and puts them into files by their
relative paths. Two names may have one path, and then the artifact that is made last takes the file
from the other. A run keeps all artifacts that it made exactly if no two of them share a path,
unless they have the same text.
-/

namespace GrammarForge

open Generation FileSystem DirectoryStore

theorem encodeText_injective {s t : String} (h : encodeText s = encodeText t) : s = t := by
  have hdecode := congrArg decodeText h
  rw [decodeText_encodeText, decodeText_encodeText] at hdecode
  exact Option.some.inj hdecode

/-- After the last request that makes a file no other one makes it. -/
theorem last_maker {δ : Type} {relative : String} {q : Requested (RunState δ DirectoryStore)}
    {rs : List (Requested (RunState δ DirectoryStore))}
    (h : (makersOf relative rs).getLast? = some q) :
    ∃ before after, rs = before ++ q :: after ∧ makersOf relative after = [] := by
  obtain ⟨others, hmakers⟩ := List.getLast?_eq_some_iff.1 h
  obtain ⟨front, back, rfl, -, hback⟩ := List.filter_eq_append_iff.1 hmakers
  obtain ⟨between, after, rfl, -, -, hafter⟩ := List.filter_eq_cons_iff.1 hback
  exact ⟨front ++ between, after, by simp, hafter⟩

/-- A file has the text of the last artifact that was made at its path. -/
theorem WrittenOn.contents?_eq {δ : Type} {before after : Workspace DirectoryStore}
    {rs : List (Requested (RunState δ DirectoryStore))} (h : WrittenOn before rs after)
    {n : LogicalName} {q : Requested (RunState δ DirectoryStore)}
    (hq : (makersOf n.relativePath rs).getLast? = some q) :
    after.store.contents? n.text after.files = some (encodeText q.artifact.text) := by
  obtain ⟨hnode, hlocate⟩ := h.texts _ q hq
  refine contents?_text ?_ hnode
  rw [filePath, h.outDirectory]
  exact hlocate

namespace Processor

variable {δ : Type} [DiagnosticSink δ] {p : Processor δ DirectoryStore}

/-- No name is created twice. -/
theorem nodup_created (h : p.store.created.Nodup) : p.runRound.2.store.created.Nodup := by
  apply p.runRound_linked.invariant (motive := fun _ w => w.store.created.Nodup) _ h
  intro _ r hnodup
  cases hcreates : r.creates with
  | false => rwa [(Requested.after_of_not_creates hcreates).1]
  | true =>
      obtain ⟨hcontains, hstore, -⟩ := Requested.after_of_creates hcreates
      have hnew : r.artifact.name.text ∉ r.state.store.created := by
        have hcreated := (Bool.or_eq_false_iff.1 hcontains).1
        simpa using hcreated
      have hconcat := hnodup.concat hnew
      rw [List.concat_eq_append] at hconcat
      rw [hstore]
      exact hconcat

/-- What is in the file of a name after a run. -/
def contentsAfter (p : Processor δ DirectoryStore) (maxRounds : Nat) (name : String) :
    Option Bytes :=
  (p.runRounds maxRounds).2.store.contents? name (p.runRounds maxRounds).2.files

theorem contentsAfter_eq {r q : Requested (RunState δ DirectoryStore)} (maxRounds : Nat)
    (hq : (makersOf r.artifact.name.relativePath p.roundRequests).getLast? = some q) :
    p.contentsAfter maxRounds r.artifact.name.text = some (encodeText q.artifact.text) := by
  rw [contentsAfter, runRounds_workspace]
  exact p.runRound_writtenOn.contents?_eq hq

/-- After a run the file of every artifact that was made has the text of the last one that was made
at its path. So all artifacts are there as they were made if and only if no two of them with
different texts share a path. -/
theorem last_text_remains {outDirectory : String} {sourceRoots : List String}
    (hstore : p.store = .new outDirectory sourceRoots) (maxRounds : Nat) :
    (p.runRounds maxRounds).1.created = createdOn p.roundRequests ∧
      (p.runRounds maxRounds).1.created.Nodup ∧
      (∀ r ∈ p.roundRequests, r.creates = true → ∃ q before after,
        p.roundRequests = before ++ q :: after ∧ q.creates = true ∧
          q.artifact.name.relativePath = r.artifact.name.relativePath ∧
          makersOf r.artifact.name.relativePath after = [] ∧
          p.contentsAfter maxRounds r.artifact.name.text = some (encodeText q.artifact.text)) ∧
      ((∀ r ∈ p.roundRequests, r.creates = true →
          p.contentsAfter maxRounds r.artifact.name.text = some (encodeText r.artifact.text)) ↔
        ∀ r ∈ p.roundRequests, ∀ q ∈ p.roundRequests, r.creates = true → q.creates = true →
          r.artifact.name.relativePath = q.artifact.name.relativePath →
            r.artifact.text = q.artifact.text) := by
  have hwritten := p.runRound_writtenOn
  have hcreated : (p.runRounds maxRounds).1.created = createdOn p.roundRequests := by
    rw [runRounds_created, hwritten.fresh, hstore]
    rfl
  have hlast : ∀ r ∈ p.roundRequests, r.creates = true → ∃ q,
      (makersOf r.artifact.name.relativePath p.roundRequests).getLast? = some q := by
    intro r hr hcreates
    exact Option.isSome_iff_exists.1 (List.getLast?_isSome.2
      (List.ne_nil_of_mem (mem_makersOf.2 ⟨hr, hcreates, rfl⟩)))
  refine ⟨hcreated, ?_, ?_, ?_⟩
  · have hnodup : p.runRound.2.store.created.Nodup := nodup_created (by simp [hstore, new])
    rw [hwritten.created, hstore] at hnodup
    rw [hcreated]
    exact hnodup
  · intro r hr hcreates
    obtain ⟨q, hq⟩ := hlast r hr hcreates
    obtain ⟨before, after, hrequests, hafter⟩ := last_maker hq
    obtain ⟨-, hqcreates, hpath⟩ := mem_makersOf.1 (List.mem_of_getLast? hq)
    exact ⟨q, before, after, hrequests, hqcreates, hpath, hafter, contentsAfter_eq maxRounds hq⟩
  · constructor
    · intro hown r hr q hq hrcreates hqcreates hpath
      obtain ⟨last, hlastr⟩ := hlast r hr hrcreates
      have hlastq := hpath ▸ hlastr
      have htext := (contentsAfter_eq maxRounds hlastr).trans
        (contentsAfter_eq maxRounds hlastq).symm
      rw [hown r hr hrcreates, hown q hq hqcreates] at htext
      exact encodeText_injective (Option.some.inj htext)
    · intro hsame r hr hcreates
      obtain ⟨q, hq⟩ := hlast r hr hcreates
      obtain ⟨hmem, hqcreates, hpath⟩ := mem_makersOf.1 (List.mem_of_getLast? hq)
      rw [contentsAfter_eq maxRounds hq, hsame q hmem r hr hqcreates hcreates hpath]

/-- The units of this grammar differ in their names by capital letters only. -/
def sharingText : String :=
  "{ parserClass = JSONParser elementTypeHolderClass = JsonParser } a ::= B"

/-- The processor is to write both units to the directory of the grammar. -/
structure IsSharing (p : Processor (List Diagnostic) DirectoryStore) : Prop where
  store : p.store = .new "d" []
  files : p.files = .withGrammar ["w"] "d" sharingText
  environment : p.environment = .standard
  definition : p.definition = .standard
  pending : p.queue.pending = [grammarPath "d"]

theorem node?_sharedFile :
    (withGrammar ["w"] "d" sharingText).node? ["w", "d", "json_parser.rs"] = none := by
  simp [node?, withGrammar, directoriesTo, List.lookup_cons]

section Sharing

variable {p : Processor (List Diagnostic) DirectoryStore} (hp : p.IsSharing)

include hp

theorem IsSharing.current : p.files.current = ["w"] := by
  rw [hp.files]
  rfl

theorem IsSharing.isDirectory_w : p.files.isDirectory ["w"] = true := by
  rw [hp.files]
  exact isDirectory_withGrammar

theorem IsSharing.isDirectory_d : p.files.isDirectory ["w", "d"] = true := by
  rw [hp.files]
  exact isDirectory_iff.2 node?_directory

theorem IsSharing.isDirectory_file :
    p.files.isDirectory ["w", "d", "json_parser.rs"] = false := by
  rw [hp.files]
  simp [isDirectory, node?_sharedFile]

end Sharing

theorem isEntryName_file : IsEntryName "json_parser.rs" :=
  ⟨by decide, by decide, by decide, by decide, by decide⟩

/-- In the directory of the grammar the file of both units can be made, also when it is there. -/
theorem creates_in_d {r : Requested (RunState (List Diagnostic) DirectoryStore)}
    (hout : r.state.store.outDirectory = "d")
    (hcontains : r.state.store.contains r.artifact.name.text r.state.files = false)
    (hrelative : r.artifact.name.relativePath = "json_parser.rs")
    (hcurrent : r.state.files.current = ["w"]) (hw : r.state.files.isDirectory ["w"] = true)
    (hd : r.state.files.isDirectory ["w", "d"] = true)
    (hfile : r.state.files.isDirectory ["w", "d", "json_parser.rs"] = false) :
    r.creates = true := by
  have hpath : r.path = Path.join "d" "json_parser.rs" := by
    rw [Requested.path, filePath, hout, hrelative]
  obtain ⟨files, hmade⟩ : ∃ files, r.state.files.createFileAndParents r.path =
      (.ok (r.state.files.current ++ ["d", "json_parser.rs"]), files) := by
    rw [hpath]
    exact createFileAndParents_entry isEntryName_d isEntryName_file (hcurrent ▸ hw)
      (hcurrent ▸ hd) (hcurrent ▸ hfile)
  exact Requested.creates_of_new hcontains hmade

/-- Without source roots a name is new until it is created. -/
theorem contains_of_no_roots {s : DirectoryStore} (hroots : s.sourceRoots = []) {n : LogicalName}
    (hname : n.text ∉ s.created) (files : FileSystem) : s.contains n.text files = false := by
  rw [DirectoryStore.contains, isHandWritten_text, hroots]
  simpa using hname

/-- The two units of the grammar. -/
theorem units_of_sharingText {p : Processor (List Diagnostic) DirectoryStore}
    (hfiles : p.files = .withGrammar ["w"] "d" sharingText) (henvironment : p.environment = .standard)
    (hdefinition : p.definition = .standard) (hpending : p.queue.pending = [grammarPath "d"]) :
    ∃ types parser sink,
      p.roundRequests = RunState.host.requests [types, parser] ⟨p.toWorkspace, sink⟩ ∧
      types.name.text = "JsonParser" ∧ parser.name.text = "JSONParser" ∧
      types.name.relativePath = "json_parser.rs" ∧
      parser.name.relativePath = "json_parser.rs" ∧ types.text ≠ parser.text := by
  obtain ⟨g, hparse, hattributes, hrules⟩ : ∃ g,
      Environment.standard.parseGrammar (grammarPath "d") sharingText = .ok g ∧
        g.attributes = [("parserClass", "JSONParser"), ("elementTypeHolderClass", "JsonParser")] ∧
        g.rules ≠ [] := ⟨_, by cbv, rfl, List.cons_ne_nil _ _⟩
  obtain ⟨base, hread⟩ := Attempt.readGrammar_grammarPath hparse
  obtain ⟨parser, types, hparserName, htypesName, hparserText, htypesText, hparserPath,
      htypesPath⟩ : ∃ parser types : LogicalName,
        LogicalName.parse "JSONParser" = .ok parser ∧ LogicalName.parse "JsonParser" = .ok types ∧
        parser.text = "JSONParser" ∧ types.text = "JsonParser" ∧
        parser.relativePath = "json_parser.rs" ∧ types.relativePath = "json_parser.rs" :=
    ⟨⟨[], ⟨"JSONParser", by decide +kernel, by decide +kernel⟩⟩,
      ⟨[], ⟨"JsonParser", by decide +kernel, by decide +kernel⟩⟩, by decide +kernel,
      by decide +kernel, by decide +kernel, by decide +kernel, by decide +kernel,
      by decide +kernel⟩
  have hparserSource : Request.parserSource ⟨g, base, "", ""⟩ =
      (.attribute parserAttribute, "JSONParser") := by
    simp only [Request.parserSource, hattributes]
    rfl
  have htypesSource : Request.typesSource? ⟨g, base, "", ""⟩ =
      some (.attribute typesAttribute, "JsonParser") := by
    simp only [Request.typesSource?, hattributes]
    rfl
  have hparser : Request.parserName ⟨g, base, "", ""⟩ = .ok parser := by
    rw [Request.parserName_eq, hparserSource, hparserName]
    rfl
  have htypes : Request.typesName ⟨g, base, "", ""⟩ parser = .ok types := by
    rw [Request.typesName_of_some htypesSource, htypesName]
    rfl
  have hartifacts := Request.plan_artifacts_eq (r := ⟨g, base, "", ""⟩) hrules
  rw [hparser] at hartifacts
  simp only [htypes] at hartifacts
  have hrequests : p.roundRequests =
      (Request.plan ⟨g, base, "", ""⟩).requests RunState.host p.toRunState := by
    rw [← hfiles] at hread
    rw [roundRequests, henvironment, hdefinition, hpending, RunState.requestsOfAll,
      RunState.requestsOfAll, List.append_nil]
    exact RunState.requests_eq .standard .standard (Attempt.planOf_of_ok hread)
  simp only [Plan.requests, hartifacts, RunState.foldl_warn] at hrequests
  exact ⟨_, _, _, hrequests, htypesText, hparserText, htypesPath, hparserPath,
    Code.types_text_ne_parser_text _ _ _ _⟩

/-- The second of two artifacts is requested once the first is made. -/
theorem requests_of_creates (parser : Artifact) {types : Artifact}
    {s : RunState (List Diagnostic) DirectoryStore}
    (h : (⟨types, s⟩ : Requested (RunState (List Diagnostic) DirectoryStore)).creates = true) :
    ∃ between, RunState.host.emit types s = (.ok (), between) ∧
      RunState.host.requests [types, parser] s = [⟨types, s⟩, ⟨parser, between⟩] := by
  obtain ⟨between, hemit⟩ := Requested.emit_of_creates h
  simp only at hemit
  refine ⟨between, hemit, ?_⟩
  simp only [Host.requests, hemit]
  split <;> rfl

/-- Both units are made. -/
theorem IsSharing.requests {p : Processor (List Diagnostic) DirectoryStore} (hp : p.IsSharing) :
    ∃ types parser, p.roundRequests = [types, parser] ∧
      types.creates = true ∧ parser.creates = true ∧
      types.artifact.name.text = "JsonParser" ∧ parser.artifact.name.text = "JSONParser" ∧
      types.artifact.name.relativePath = "json_parser.rs" ∧
      parser.artifact.name.relativePath = "json_parser.rs" ∧
      types.artifact.text ≠ parser.artifact.text := by
  obtain ⟨types, parser, sink, hrequests, htypesText, hparserText, htypesPath, hparserPath,
    htexts⟩ := units_of_sharingText hp.files hp.environment hp.definition hp.pending
  let first : Requested (RunState (List Diagnostic) DirectoryStore) :=
    ⟨types, ⟨p.toWorkspace, sink⟩⟩
  have hfirst : first.creates = true := creates_in_d (congrArg outDirectory hp.store)
    (contains_of_no_roots (congrArg sourceRoots hp.store) (by simp [first, hp.store, new]) _)
    htypesPath hp.current hp.isDirectory_w hp.isDirectory_d hp.isDirectory_file
  obtain ⟨-, hstore, hgrows, hnode, -⟩ := Requested.after_of_creates hfirst
  obtain ⟨between, hemit, hpair⟩ := requests_of_creates parser hfirst
  have hafter : first.after = between.toWorkspace := congrArg (·.2.toWorkspace) hemit
  rw [hafter] at hstore hgrows hnode
  refine ⟨first, ⟨parser, between⟩, hrequests.trans hpair, hfirst, ?_, htypesText, hparserText,
    htypesPath, hparserPath, htexts⟩
  have hmade : between.store = ⟨"d", [], ["JsonParser"], ["JsonParser"]⟩ := by
    rw [hstore, show first.artifact.name.text = "JsonParser" from htypesText]
    exact congrArg (DirectoryStore.record "JsonParser") hp.store
  have hpath : first.path = Path.join "d" "json_parser.rs" := by
    rw [Requested.path, filePath]
    exact congrArg₂ (fun s path => Path.join s.outDirectory path) hp.store htypesPath
  have hfile : between.files.isDirectory ["w", "d", "json_parser.rs"] = false := by
    have hcurrent : first.state.files.current = ["w"] := hp.current
    rw [hpath, placeOf_entry isEntryName_d isEntryName_file, hcurrent, List.singleton_append]
      at hnode
    simp [isDirectory, hnode]
  exact creates_in_d (congrArg outDirectory hmade)
    (contains_of_no_roots (congrArg sourceRoots hmade) (by simp [hmade, hparserText]) _)
    hparserPath (hgrows.current.trans hp.current) (hgrows.directory hp.isDirectory_w)
    (hgrows.directory hp.isDirectory_d) hfile

/-- A processor for the grammar, with directories of sources. -/
def sharingProcessor (sourceRoots : List String) : Processor (List Diagnostic) DirectoryStore :=
  ⟨⟨⟨.new "d" sourceRoots, .withGrammar ["w"] "d" sharingText⟩, []⟩, .standard, .standard,
    .ofPaths [grammarPath "d"]⟩

/-- The processor exists. -/
theorem exists_isSharing : ∃ p : Processor (List Diagnostic) DirectoryStore, p.IsSharing :=
  ⟨sharingProcessor [], rfl, rfl, rfl, rfl, rfl⟩

/-- Two names that share a path are both reported, and cannot both have their texts. -/
theorem one_text_of_two_remains : ∃ p : Processor (List Diagnostic) DirectoryStore,
    p.IsSharing ∧ (p.runRounds 8).1.created = ["JsonParser", "JSONParser"] ∧
      ¬ ∀ r ∈ p.roundRequests, r.creates = true →
        p.contentsAfter 8 r.artifact.name.text = some (encodeText r.artifact.text) := by
  obtain ⟨p, hp⟩ := exists_isSharing
  obtain ⟨types, parser, hrequests, htypes, hparser, htypesText, hparserText, htypesPath,
    hparserPath, htexts⟩ := hp.requests
  have hmem : types ∈ p.roundRequests ∧ parser ∈ p.roundRequests := by simp [hrequests]
  obtain ⟨hcreated, -, -, hown⟩ := last_text_remains hp.store 8
  refine ⟨p, hp, ?_, ?_⟩
  · rw [hcreated, hrequests]
    simp [createdOn, htypes, hparser, htypesText, hparserText]
  · rw [hown]
    intro hsame
    exact htexts
      (hsame types hmem.1 parser hmem.2 htypes hparser (htypesPath.trans hparserPath.symm))

/-- The types unit is made, and the parser is written over it. -/
theorem types_unit_is_overwritten : ∃ p : Processor (List Diagnostic) DirectoryStore,
    p.IsSharing ∧ ∃ r ∈ p.roundRequests, r.creates = true ∧
      r.artifact.name.text ∈ (p.runRounds 8).1.created ∧
      p.contentsAfter 8 r.artifact.name.text ≠ some (encodeText r.artifact.text) := by
  obtain ⟨p, hp⟩ := exists_isSharing
  obtain ⟨types, parser, hrequests, htypes, hparser, -, -, htypesPath, hparserPath, htexts⟩ :=
    hp.requests
  have hmem : types ∈ p.roundRequests := by simp [hrequests]
  have hlast : (makersOf types.artifact.name.relativePath p.roundRequests).getLast? =
      some parser := by
    simp [hrequests, makersOf, htypes, hparser, htypesPath, hparserPath]
  refine ⟨p, hp, types, hmem, htypes, p.mem_created_of_creates 8 hmem htypes, ?_⟩
  rw [contentsAfter_eq 8 hlast]
  intro hsame
  exact htexts (encodeText_injective (Option.some.inj hsame)).symm

end Processor

end GrammarForge
