import GrammarForge.Proofs.Processing.SharedPaths
import GrammarForge.Proofs.Store.DiscardedRequests

/-!
# Runs into a directory of sources

A store may write into a directory that is one of its own source roots. There the files that it has
made itself are sources as well, so a file is made only where there was none: what was below the
directory stays as it was, and what a run makes stays as it was made. This holds for the paths of
names, hence also for names that differ and share a path.
-/

namespace GrammarForge

open Generation FileSystem DirectoryStore

namespace FileSystem

open GrammarForge.Path

variable {fs : FileSystem} {place next : Location} {directory : String} {n : LogicalName}

/-- A way through the directory leads down to the place. -/
def IsBelow (fs : FileSystem) (directory : String) (place : Location) : Prop :=
  ∃ names, (∀ name ∈ names, IsNormal name) ∧
    fs.Leads (fs.start directory) (parts directory ++ names) place

/-- An empty part on the way says nothing, unless the way ends with it. -/
theorem leads_empty_part {names : List String} (h : names ≠ []) :
    fs.Leads place ("" :: names) next ↔ fs.Leads place names next := by
  obtain ⟨part, rest, rfl⟩ := List.exists_cons_of_ne_nil h
  constructor
  · intro hleads
    obtain ⟨middle, hstep, hrest⟩ := leads_cons.1 hleads
    have hmiddle : middle = place := (eq_follow_of_enter hstep).trans (follow_empty place)
    rwa [hmiddle] at hrest
  · intro hleads
    obtain ⟨middle, hstep, -⟩ := leads_cons.1 hleads
    exact leads_cons.2 ⟨place, enter_noise (enter_eq_ok hstep).1 (by decide), hleads⟩

/-- The path of a name leads through the directory. -/
theorem leads_join : fs.Leads (fs.start (join directory n.relativePath))
      (parts (join directory n.relativePath)) place ↔
    fs.Leads (fs.start directory) (parts directory ++ n.fileComponents) place := by
  obtain ⟨front, hparts, hfront⟩ := @parts_join directory _ n.isAbsolute_relativePath
  rw [hparts, start_join n.isAbsolute_relativePath, n.parts_relativePath]
  rcases hfront with ⟨rfl, rfl⟩ | ⟨-, hfront | hfront⟩
  · exact (leads_empty_part n.fileComponents_ne_nil).symm
  · rw [hfront]
  · simp only [hfront, List.append_assoc, List.singleton_append, leads_append,
      leads_empty_part n.fileComponents_ne_nil]

theorem IsBelow.of_locate (h : fs.locate (join directory n.relativePath) = .ok place) :
    fs.IsBelow directory place :=
  ⟨n.fileComponents, n.isNormal_fileComponents, leads_join.1 (locate_eq_ok.1 h).2⟩

/-- There is only one way down to a place, so the path of a name with this place leads there. -/
theorem IsBelow.locate (h : fs.IsBelow directory place)
    (hplace : place = fs.placeOf (join directory n.relativePath))
    (hcheck : checkPath (join directory n.relativePath) = .ok ()) :
    fs.locate (join directory n.relativePath) = .ok place := by
  obtain ⟨names, hnormal, hleads⟩ := h
  have hend : place = fs.placeOf directory ++ names := by
    rw [hleads.eq_foldl, List.foldl_append, foldl_follow_normal _ hnormal]
    rfl
  have hnames : names = n.fileComponents := by
    rw [hplace, placeOf_join] at hend
    exact (List.append_cancel_left hend).symm
  rw [hnames] at hleads
  exact locate_eq_ok.2 ⟨hcheck, leads_join.2 hleads⟩

theorem Grows.isBelow {made written : Location → Prop} {before after : FileSystem}
    (h : Grows made written before after) (hbelow : before.IsBelow directory place) :
    after.IsBelow directory place := by
  obtain ⟨names, hnormal, hleads⟩ := hbelow
  refine ⟨names, hnormal, ?_⟩
  rw [start_congr h.current]
  exact h.leads hleads

end FileSystem

/-- The output directory is a source root, and there is a file below it. -/
structure DirectoryStore.Guards (w : Workspace DirectoryStore) (place : Location)
    (content : Bytes) : Prop where
  isRoot : w.store.outDirectory ∈ w.store.sourceRoots
  below : w.files.IsBelow w.store.outDirectory place
  node : w.files.node? place = some (.file content)

variable {δ : Type} [DiagnosticSink δ]

namespace Generation.Requested

variable {r : Requested (RunState δ DirectoryStore)} {place : Location} {content : Bytes}

/-- Where there is a file already, no request makes one. -/
theorem placeOf_ne_of_guards (h : Guards r.state.toWorkspace place content)
    (hcreates : r.creates = true) : r.state.files.placeOf r.path ≠ place := by
  intro hplace
  obtain ⟨hnew, -, -, -, hlocate⟩ := after_of_creates hcreates
  have hfound : r.state.files.locate r.path = .ok place :=
    h.below.locate hplace.symm (locate_eq_ok.1 hlocate).1
  have hcontains : ArtifactStore.contains r.artifact.name.text r.state.toWorkspace = true :=
    contains_iff.2 (.inr ⟨_, relativePath_text _, _, h.isRoot,
      isFileAt_iff.2 ⟨place, hfound, content, h.node⟩⟩)
  exact Bool.false_ne_true (hnew.symm.trans hcontains)

theorem after_guards (h : Guards r.state.toWorkspace place content) :
    Guards r.after place content := by
  cases hcreates : r.creates with
  | false =>
      obtain ⟨hstore, hgrows⟩ := after_of_not_creates hcreates
      refine ⟨hstore ▸ h.isRoot, hstore ▸ hgrows.isBelow h.below, ?_⟩
      exact hgrows.file_eq h.node id
  | true =>
      obtain ⟨-, hstore, hgrows, -⟩ := after_of_creates hcreates
      refine ⟨hstore ▸ h.isRoot, hstore ▸ hgrows.isBelow h.below, ?_⟩
      exact hgrows.file_eq h.node fun hplace => placeOf_ne_of_guards h hcreates hplace.symm

/-- The file that a request has made is below the output directory. -/
theorem guards_of_creates (hroot : r.state.store.outDirectory ∈ r.state.store.sourceRoots)
    (hcreates : r.creates = true) :
    Guards r.after (r.state.files.placeOf r.path) (encodeText r.artifact.text) := by
  obtain ⟨-, hstore, -, hnode, hlocate⟩ := after_of_creates hcreates
  exact ⟨hstore ▸ hroot, hstore ▸ .of_locate hlocate, hnode⟩

end Generation.Requested

theorem Linked.guards {w final : Workspace DirectoryStore}
    {rs : List (Requested (RunState δ DirectoryStore))} {place : Location} {content : Bytes}
    (h : Linked w rs final) (hw : Guards w place content) :
    (∀ r ∈ rs, Guards r.state.toWorkspace place content) ∧ Guards final place content := by
  refine h.invariant (motive := fun before w =>
    (∀ r ∈ before, Guards r.state.toWorkspace place content) ∧ Guards w place content) ?_ ?_
  · intro before r hguards
    refine ⟨fun q hq => ?_, Requested.after_guards hguards.2⟩
    rcases List.mem_append.1 hq with hbefore | hr
    · exact hguards.1 q hbefore
    · rw [List.mem_singleton.1 hr]
      exact hguards.2
  · exact ⟨by simp, hw⟩

namespace Processor

variable (p : Processor δ DirectoryStore) (maxRounds : Nat)

/-- From these requests of a run on to its end a file is left alone. -/
structure KeepsFile (rs : List (Requested (RunState δ DirectoryStore))) (place : Location)
    (content : Bytes) : Prop where
  notMade : ∀ r ∈ rs, r.creates = true →
    p.files.placeOf (p.store.filePath r.artifact.name) ≠ place
  after : ∀ r ∈ rs, r.after.files.node? place = some (.file content)
  final : (p.runRounds maxRounds).2.files.node? place = some (.file content)

variable {p}

theorem keepsFile_of_guards {w : Workspace DirectoryStore}
    {before rest : List (Requested (RunState δ DirectoryStore))} {place : Location}
    {content : Bytes} (hrequests : p.roundRequests = before ++ rest)
    (hlinked : Linked w rest p.runRound.2.toWorkspace) (h : Guards w place content) :
    p.KeepsFile maxRounds rest place content := by
  obtain ⟨hguards, hfinal⟩ := hlinked.guards h
  refine ⟨fun r hr hcreates => ?_, fun r hr => (Requested.after_guards (hguards r hr)).node, ?_⟩
  · obtain ⟨rs, hwritten⟩ := p.writtenOn_of_mem (hrequests ▸ List.mem_append_right before hr)
    rw [← hwritten.path_eq, ← hwritten.placeOf_eq]
    exact Requested.placeOf_ne_of_guards (hguards r hr) hcreates
  · rw [runRounds_workspace]
    exact hfinal.node

/-- What was below the output directory when the run began is kept. -/
theorem keepsFile_of_isBelow (hroot : p.store.outDirectory ∈ p.store.sourceRoots)
    {place : Location} {content : Bytes} (hbelow : p.files.IsBelow p.store.outDirectory place)
    (hnode : p.files.node? place = some (.file content)) :
    p.KeepsFile maxRounds p.roundRequests place content :=
  keepsFile_of_guards maxRounds (List.nil_append _).symm p.runRound_linked ⟨hroot, hbelow, hnode⟩

/-- What a request has made is kept by those after it. -/
theorem keepsFile_of_creates (hroot : p.store.outDirectory ∈ p.store.sourceRoots)
    {before after : List (Requested (RunState δ DirectoryStore))}
    {r : Requested (RunState δ DirectoryStore)} (hrequests : p.roundRequests = before ++ r :: after)
    (hcreates : r.creates = true) :
    p.KeepsFile maxRounds after (p.files.placeOf (p.store.filePath r.artifact.name))
      (encodeText r.artifact.text) := by
  have hlinked := p.runRound_linked
  rw [hrequests] at hlinked
  obtain ⟨middle, -, hrest⟩ := hlinked.split
  have hmem : r ∈ p.roundRequests := by simp [hrequests]
  obtain ⟨rs, hwritten⟩ := p.writtenOn_of_mem hmem
  have hguards : Guards r.after (r.state.files.placeOf r.path) (encodeText r.artifact.text) := by
    apply Requested.guards_of_creates _ hcreates
    rw [hwritten.outDirectory, hwritten.sourceRoots]
    exact hroot
  rw [hwritten.path_eq, hwritten.placeOf_eq] at hguards
  cases hrest with
  | cons _ hafter =>
      have hsplit : p.roundRequests = (before ++ [r]) ++ after := by
        rw [hrequests, List.append_assoc, List.singleton_append]
      exact keepsFile_of_guards maxRounds hsplit hafter hguards

/-- Whatever has been done before, a request is discarded if and only if its name was created or a
source root has a file at the path of the name. It changes nothing then, and neither does whatever
is written to its sink later. So if the output directory is a source root, a run leaves all files
alone that it finds there, and each file that it makes there from then on. -/
theorem hand_written_sources_remain (p : Processor δ DirectoryStore) (maxRounds : Nat) :
    (∀ (s : Session DirectoryStore BufferedFile) (name : String),
      ((s.requestText name).1 = .decided .discard ↔ name ∈ s.store.created ∨ ∃ path,
        relativePath name = .ok path ∧
          ∃ root ∈ s.store.sourceRoots, s.files.isFileAt (Path.join root path) = true) ∧
      ((s.requestText name).1 = .decided .discard →
        (s.requestText name).2.toWorkspace = s.toWorkspace ∧
        ∀ steps step, EmissionStep.sink? step = some s.requested →
          (((s.requestText name).2.emitAll steps).emit step).toWorkspace =
            ((s.requestText name).2.emitAll steps).toWorkspace)) ∧
      (p.store.outDirectory ∈ p.store.sourceRoots →
        (∀ place content, p.files.IsBelow p.store.outDirectory place →
          p.files.node? place = some (.file content) →
          p.KeepsFile maxRounds p.roundRequests place content) ∧
        ∀ before r after, p.roundRequests = before ++ r :: after → r.creates = true →
          p.KeepsFile maxRounds after (p.files.placeOf (p.store.filePath r.artifact.name))
            (encodeText r.artifact.text)) := by
  refine ⟨fun s name => ⟨Session.requestText_discard_iff.trans contains_iff, ?_⟩,
    fun hroot => ⟨?_, ?_⟩⟩
  · intro hdiscard
    obtain ⟨hsame, hdiscarded⟩ := Session.requestText_of_discard hdiscard
    refine ⟨hsame, fun steps step hstep => ?_⟩
    exact (hdiscarded.emitAll steps).emit_toWorkspace hstep
  · exact fun place content => keepsFile_of_isBelow maxRounds hroot
  · exact fun before r after => keepsFile_of_creates maxRounds hroot

theorem isFileAt_sharedFile :
    (withGrammar ["w"] "d" sharingText).isFileAt (Path.join "d" "json_parser.rs") = false := by
  rw [Bool.eq_false_iff]
  intro hfile
  obtain ⟨place, hlocate, content, hnode⟩ := isFileAt_iff.1 hfile
  rw [eq_placeOf_of_locate hlocate, placeOf_entry isEntryName_d isEntryName_file] at hnode
  exact nomatch node?_sharedFile.symm.trans hnode

theorem isBelow_grammar :
    (withGrammar ["w"] "d" sharingText).IsBelow "d" ["w", "d", "g.bnf"] := by
  refine ⟨["g.bnf"], ?_, ?_⟩
  · simp only [List.mem_singleton, forall_eq]
    exact ⟨by decide, by decide, by decide, by decide⟩
  · rw [isEntryName_d.parts_eq, start, isEntryName_d.isAbsolute_eq]
    exact leads_grammar isEntryName_d

/-- Two units are requested with the directory of the grammar as a source root, and the first is
made. -/
theorem requests_beside_grammar :
    ∃ types parser, (sharingProcessor ["d"]).roundRequests = [types, parser] ∧
      types.state.store = .new "d" ["d"] ∧ types.creates = true ∧
      types.artifact.name.relativePath = "json_parser.rs" ∧
      parser.artifact.name.text = "JSONParser" := by
  obtain ⟨types, parser, sink, hrequests, -, hparserText, htypesPath, -, -⟩ :=
    @units_of_sharingText (sharingProcessor ["d"]) rfl rfl rfl rfl
  have hcreates : Requested.creates ⟨types, ⟨(sharingProcessor ["d"]).toWorkspace, sink⟩⟩ := by
    apply creates_in_d rfl _ htypesPath rfl isDirectory_withGrammar
    · exact isDirectory_iff.2 node?_directory
    · simp [sharingProcessor, isDirectory, node?_sharedFile]
    · rw [DirectoryStore.contains, isHandWritten_text]
      simpa [sharingProcessor, new, htypesPath] using isFileAt_sharedFile
  obtain ⟨between, -, hpair⟩ := requests_of_creates parser hcreates
  exact ⟨_, _, hrequests.trans hpair, rfl, hcreates, htypesPath, hparserText⟩

/-- A grammar and the first unit beside it are kept where the units share a path. The second unit is
discarded, also with blanks around its name. -/
theorem first_unit_beside_grammar_remains :
    ∃ types parser : Requested (RunState (List Diagnostic) DirectoryStore),
      (sharingProcessor ["d"]).KeepsFile 8 [types, parser] ["w", "d", "g.bnf"]
        (encodeText sharingText) ∧
      types.creates = true ∧ parser.artifact.name.text = "JSONParser" ∧
      (sharingProcessor ["d"]).KeepsFile 8 [parser] ["w", "d", "json_parser.rs"]
        (encodeText types.artifact.text) ∧
      (Session.requestText " JSONParser " (.start types.after)).1 = .decided .discard ∧
      (Session.requestText " JSONParser " (.start types.after)).2.files = types.after.files := by
  obtain ⟨types, parser, hrun, htypes, hcreates, hrelative, hparser⟩ := requests_beside_grammar
  obtain ⟨hdiscards, hkeeps⟩ := hand_written_sources_remain (sharingProcessor ["d"]) 8
  obtain ⟨hfound, hmade⟩ := hkeeps (List.mem_singleton_self "d")
  have hgrammar := hfound _ _ isBelow_grammar node?_grammar
  have hunit := hmade [] types [parser] hrun hcreates
  rw [hrun] at hgrammar
  rw [filePath, hrelative] at hunit
  obtain ⟨-, hstore, -, hnode, hlocate⟩ := Requested.after_of_creates hcreates
  have hpath : types.path = Path.join "d" "json_parser.rs" := by
    rw [Requested.path, filePath, htypes, hrelative]
    rfl
  rw [hpath] at hnode hlocate
  have hroot : "d" ∈ types.after.store.sourceRoots := by
    rw [hstore, htypes]
    exact List.mem_singleton_self "d"
  obtain ⟨hiff, hfrozen⟩ := hdiscards (.start types.after) " JSONParser "
  have hdiscarded := hiff.2 (.inr ⟨"json_parser.rs", by decide +kernel, "d", hroot,
    isFileAt_iff.2 ⟨_, hlocate, _, hnode⟩⟩)
  refine ⟨types, parser, hgrammar, hcreates, hparser, ?_, hdiscarded,
    congrArg (·.files) (hfrozen hdiscarded).1⟩
  rwa [show (sharingProcessor ["d"]).files.placeOf
      (Path.join (sharingProcessor ["d"]).store.outDirectory "json_parser.rs") =
        ["w", "d", "json_parser.rs"] from placeOf_entry isEntryName_d isEntryName_file] at hunit

end Processor

end GrammarForge
