import GrammarForge.Proofs.Processing.RequestChains
import GrammarForge.Proofs.Store.DirectoryFiles

/-!
# Runs into a directory

A request to a store in a directory makes at most one file, that of its name, and writes to no
other. From this it follows what a run does to the file system: it writes the files of the names
that it says it created, and makes directories around the output directory.
-/

namespace GrammarForge

open Generation FileSystem DirectoryStore

namespace DirectoryStore

/-- What is written to a file that has just been made, and then closed, is in the file. -/
theorem fill_new {δ : Type} [DiagnosticSink δ] (s : RunState δ DirectoryStore) {place : Location}
    (hnode : s.files.node? place = some (.file [])) (text : Bytes) : ∃ files,
      RunState.host.fill text (.artifact (.new place)) s =
        (.ok (), { s with toWorkspace := { s.toWorkspace with files } }) ∧
      Grows nowhere (· = place) s.files files ∧ files.node? place = some (.file text) := by
  have hwritten := (BufferedFile.holds_new hnode).write text
  have hgrows := BufferedFile.write_grows text (.new place) s.files
  have hplace := BufferedFile.write_place text (.new place) s.files
  generalize hv : (BufferedFile.new place).write text s.files = v at hwritten hgrows hplace
  have hflushed := hwritten.flush
  have hgrown := BufferedFile.flush_grows v.1 v.2
  have hkept := BufferedFile.flush_place v.1 v.2
  generalize hu : v.1.flush v.2 = u at hflushed hgrown hkept
  have hclosed := BufferedFile.flush_grows u.1 u.2
  have hend := hflushed.node?_flush
  change v.1.place = place at hplace
  rw [hkept, hplace] at hclosed hend
  rw [hplace] at hgrown
  refine ⟨(u.1.flush u.2).2, ?_, (hgrows.trans hgrown).trans hclosed, hend⟩
  simp only [Host.fill, RunState.host, Workspace.write, Workspace.flush, Workspace.close,
    ArtifactStore.write, ArtifactStore.flush, ArtifactStore.close, hv, hu]

end DirectoryStore

/-! ## One request -/

namespace Generation.Requested

variable {δ : Type} {r : Requested (RunState δ DirectoryStore)}

/-- The path of the file of the artifact. -/
def path (r : Requested (RunState δ DirectoryStore)) : String :=
  r.state.store.filePath r.artifact.name

/-- A new name for which a file can be made is made. -/
theorem creates_of_new (h : r.state.store.contains r.artifact.name.text r.state.files = false)
    {place : Location} {files : FileSystem}
    (hfile : r.state.files.createFileAndParents r.path = (.ok place, files)) :
    r.creates = true := by
  have hrequest := request_of_new h
  rw [show r.state.toWorkspace.store.filePath r.artifact.name = r.path from rfl, hfile] at hrequest
  rw [creates, hrequest]

variable [DiagnosticSink δ]

/-- A request that makes no artifact makes directories at most. -/
theorem after_of_not_creates (h : r.creates = false) :
    r.after.store = r.state.store ∧
      Grows (r.state.files.onTheWay r.path) nowhere r.state.files r.after.files := by
  cases hcontains : r.state.store.contains r.artifact.name.text r.state.files with
  | true =>
      have hemit := (RunState.emit_of_contains (a := r.artifact) (s := r.state) hcontains).2
      rw [after, hemit]
      exact ⟨rfl, Grows.refl _⟩
  | false =>
      have hrequest := request_of_new hcontains
      cases hfile : r.state.files.createFileAndParents r.path with
      | mk result files =>
          rw [show r.state.toWorkspace.store.filePath r.artifact.name = r.path from rfl,
            hfile] at hrequest
          cases result with
          | ok place =>
              rw [creates, hrequest] at h
              cases h
          | error e =>
              have hafter : r.after = { r.state.toWorkspace with files } := by
                simp only [after, Host.emit, RunState.host, hrequest]
              obtain ⟨hgrows, -⟩ := createFileAndParents_grows hfile
              rw [hafter]
              exact ⟨rfl, hgrows.mono (fun _ => id) fun _ hplace => by cases hplace⟩

/-- A request that makes an artifact finds a name that is new, writes the file of this name, and no
other, and leaves the text of the artifact in it. -/
theorem after_of_creates (h : r.creates = true) :
    r.state.store.contains r.artifact.name.text r.state.files = false ∧
      r.after.store = r.state.store.record r.artifact.name.text ∧
      Grows (r.state.files.onTheWay r.path) (· = r.state.files.placeOf r.path) r.state.files
        r.after.files ∧
      r.after.files.node? (r.state.files.placeOf r.path) =
        some (.file (encodeText r.artifact.text)) ∧
      r.after.files.locate r.path = .ok (r.state.files.placeOf r.path) := by
  cases hcontains : r.state.store.contains r.artifact.name.text r.state.files with
  | true =>
      have hrequest := (RunState.emit_of_contains (a := r.artifact) (s := r.state) hcontains).1
      rw [creates, hrequest] at h
      cases h
  | false =>
      have hrequest := request_of_new hcontains
      cases hfile : r.state.files.createFileAndParents r.path with
      | mk result files =>
          rw [show r.state.toWorkspace.store.filePath r.artifact.name = r.path from rfl,
            hfile] at hrequest
          cases result with
          | error e =>
              rw [creates, hrequest] at h
              cases h
          | ok place =>
              obtain ⟨hgrows, hmade⟩ := createFileAndParents_grows hfile
              obtain ⟨hplace, hempty, hlocate⟩ := hmade place rfl
              obtain ⟨filled, hfill, hgrown, hnode⟩ := fill_new
                { r.state with toWorkspace := ⟨r.state.store.record r.artifact.name.text, files⟩ }
                hempty (encodeText r.artifact.text)
              have hafter : r.after = ⟨r.state.store.record r.artifact.name.text, filled⟩ := by
                simp only [after, Host.emit, RunState.host, hrequest]
                exact congrArg (·.2.toWorkspace) hfill
              rw [hafter, ← hplace]
              refine ⟨rfl, rfl, ?_, hnode, hgrown.locate hlocate⟩
              refine Grows.trans (hgrows.mono (fun _ => id) ?_) (hgrown.mono ?_ fun _ => id)
              · rintro _ ⟨rfl⟩
                rfl
              · exact fun _ => False.elim

end Generation.Requested

/-! ## Runs -/

section Runs

variable {δ : Type}

/-- The names of the artifacts that are made on these requests. -/
def createdOn (rs : List (Requested (RunState δ DirectoryStore))) : List String :=
  (rs.filter (·.creates)).map (·.artifact.name.text)

/-- The requests that make the file at a relative path. -/
def makersOf (relative : String) (rs : List (Requested (RunState δ DirectoryStore))) :
    List (Requested (RunState δ DirectoryStore)) :=
  rs.filter fun r => r.creates && r.artifact.name.relativePath = relative

/-- The workspace `after` has come from `before` by these requests. -/
structure WrittenOn (before : Workspace DirectoryStore)
    (rs : List (Requested (RunState δ DirectoryStore))) (after : Workspace DirectoryStore) :
    Prop where
  outDirectory : after.store.outDirectory = before.store.outDirectory
  sourceRoots : after.store.sourceRoots = before.store.sourceRoots
  created : after.store.created = before.store.created ++ createdOn rs
  fresh : after.store.fresh = before.store.fresh ++ createdOn rs
  grows : Grows (before.files.isAround before.store.outDirectory)
    (fun place => ∃ r ∈ rs, r.creates = true ∧
      place = before.files.placeOf (before.store.filePath r.artifact.name)) before.files after.files
  /-- A file has the text of the last artifact for which it was made. -/
  texts : ∀ relative r, (makersOf relative rs).getLast? = some r →
    after.files.node? (before.files.placeOf (Path.join before.store.outDirectory relative)) =
        some (.file (encodeText r.artifact.text)) ∧
      after.files.locate (Path.join before.store.outDirectory relative) =
        .ok (before.files.placeOf (Path.join before.store.outDirectory relative))

theorem WrittenOn.refl (w : Workspace DirectoryStore) :
    WrittenOn w ([] : List (Requested (RunState δ DirectoryStore))) w := by
  refine ⟨rfl, rfl, ?_, ?_, Grows.refl _, ?_⟩
  · simp [createdOn]
  · simp [createdOn]
  · intro relative r h
    cases h

theorem mem_makersOf {relative : String} {rs : List (Requested (RunState δ DirectoryStore))}
    {r : Requested (RunState δ DirectoryStore)} : r ∈ makersOf relative rs ↔
      r ∈ rs ∧ r.creates = true ∧ r.artifact.name.relativePath = relative := by
  simp [makersOf]

namespace WrittenOn

variable {before : Workspace DirectoryStore} {rs : List (Requested (RunState δ DirectoryStore))}
  {r : Requested (RunState δ DirectoryStore)}

theorem path_eq (h : WrittenOn before rs r.state.toWorkspace) :
    r.path = before.store.filePath r.artifact.name := by
  rw [Requested.path, filePath, h.outDirectory, filePath]

theorem placeOf_eq (h : WrittenOn before rs r.state.toWorkspace) (path : String) :
    r.state.files.placeOf path = before.files.placeOf path := placeOf_congr h.grows.current path

variable [DiagnosticSink δ]

/-- What one more request does to the files. -/
theorem request_grows (h : WrittenOn before rs r.state.toWorkspace) :
    Grows (before.files.isAround before.store.outDirectory)
      (fun place => r.creates = true ∧
        place = before.files.placeOf (before.store.filePath r.artifact.name))
      r.state.files r.after.files := by
  have haround : ∀ place, r.state.files.onTheWay r.path place →
      before.files.isAround before.store.outDirectory place := by
    intro place hplace
    rw [← isAround_congr h.grows.current, ← h.outDirectory]
    exact isAround_of_onTheWay hplace
  cases hcreates : r.creates with
  | false => exact (Requested.after_of_not_creates hcreates).2.mono haround fun _ => False.elim
  | true =>
      obtain ⟨-, -, hgrows, -⟩ := Requested.after_of_creates hcreates
      refine hgrows.mono haround ?_
      rintro _ rfl
      exact ⟨rfl, by rw [h.path_eq, h.placeOf_eq]⟩

/-- The store after one more request. -/
theorem after_store (h : WrittenOn before rs r.state.toWorkspace) :
    r.after.store = { r.state.store with
      created := before.store.created ++ createdOn (rs ++ [r])
      fresh := before.store.fresh ++ createdOn (rs ++ [r]) } := by
  cases hcreates : r.creates with
  | false =>
      have hnames : createdOn (rs ++ [r]) = createdOn rs := by
        simp [createdOn, List.filter_append, hcreates]
      rw [(Requested.after_of_not_creates hcreates).1, hnames, ← h.created, ← h.fresh]
  | true =>
      have hnames : createdOn (rs ++ [r]) = createdOn rs ++ [r.artifact.name.text] := by
        simp [createdOn, List.filter_append, hcreates]
      rw [(Requested.after_of_creates hcreates).2.1, hnames, ← List.append_assoc, ← h.created,
        ← List.append_assoc, ← h.fresh]
      rfl

theorem concat (h : WrittenOn before rs r.state.toWorkspace) :
    WrittenOn before (rs ++ [r]) r.after := by
  have hstore := h.after_store
  refine ⟨hstore ▸ h.outDirectory, hstore ▸ h.sourceRoots, by rw [hstore], by rw [hstore], ?_, ?_⟩
  · refine Grows.trans (h.grows.mono (fun _ => id) ?_) (h.request_grows.mono (fun _ => id) ?_)
    · exact fun _ ⟨q, hq, hrest⟩ => ⟨q, List.mem_append_left _ hq, hrest⟩
    · exact fun _ hrest => ⟨r, by simp, hrest⟩
  · intro relative q hq
    by_cases hr : r.creates = true ∧ r.artifact.name.relativePath = relative
    · obtain ⟨hcreates, rfl⟩ := hr
      have hmakers : makersOf r.artifact.name.relativePath (rs ++ [r]) =
          makersOf r.artifact.name.relativePath rs ++ [r] := by
        simp [makersOf, List.filter_append, hcreates]
      rw [hmakers, List.getLast?_concat] at hq
      cases hq
      obtain ⟨-, -, -, hnode, hlocate⟩ := Requested.after_of_creates hcreates
      rw [h.path_eq, h.placeOf_eq] at hnode hlocate
      exact ⟨hnode, hlocate⟩
    · have hmakers : makersOf relative (rs ++ [r]) = makersOf relative rs := by
        simpa [makersOf, List.filter_append] using hr
      rw [hmakers] at hq
      obtain ⟨-, -, rfl⟩ := mem_makersOf.1 (List.mem_of_getLast? hq)
      obtain ⟨hnode, hlocate⟩ := h.texts _ q hq
      refine ⟨h.request_grows.file_eq hnode ?_, h.request_grows.locate hlocate⟩
      rintro ⟨hcreates, hsame⟩
      exact hr ⟨hcreates, (relativePath_eq_of_placeOf hsame).symm⟩

end WrittenOn

/-! ## What a run leaves behind -/

namespace Processor

variable [DiagnosticSink δ] (p : Processor δ DirectoryStore) (maxRounds : Nat)

theorem runRound_writtenOn : WrittenOn p.toWorkspace p.roundRequests p.runRound.2.toWorkspace :=
  p.runRound_linked.invariant (fun _ _ h => h.concat) (WrittenOn.refl p.toWorkspace)

/-- What has been written when a request is made. -/
theorem writtenOn_of_mem {r : Requested (RunState δ DirectoryStore)} (hr : r ∈ p.roundRequests) :
    ∃ rs : List (Requested (RunState δ DirectoryStore)),
      WrittenOn p.toWorkspace rs r.state.toWorkspace := by
  obtain ⟨before, rest, hrequests⟩ := List.append_of_mem hr
  have hlinked := p.runRound_linked
  rw [hrequests] at hlinked
  obtain ⟨middle, hbefore, hrest⟩ := hlinked.split
  rw [← hrest.head] at hbefore
  exact ⟨_, hbefore.invariant (fun _ _ h => h.concat) (.refl p.toWorkspace)⟩

theorem runRounds_created : (p.runRounds maxRounds).1.created = p.runRound.2.store.fresh :=
  (runRounds_eq (fun _ => rfl) maxRounds p).1

theorem runRounds_workspace : (p.runRounds maxRounds).2.toWorkspace =
    { p.runRound.2.toWorkspace with store := { p.runRound.2.store with fresh := [] } } :=
  (runRounds_eq (fun _ => rfl) maxRounds p).2

/-- A name for which a request of the run made an artifact is reported. -/
theorem mem_created_of_creates {r : Requested (RunState δ DirectoryStore)}
    (hr : r ∈ p.roundRequests) (hcreates : r.creates = true) :
    r.artifact.name.text ∈ (p.runRounds maxRounds).1.created := by
  rw [runRounds_created, p.runRound_writtenOn.fresh]
  apply List.mem_append_right
  exact List.mem_map.2 ⟨r, List.mem_filter.2 ⟨hr, hcreates⟩, rfl⟩

/-- A run writes the files of the names that it reports, and makes directories around the output
directory; so does each of its requests, of which the run consists. The path of a name leads down
from the output directory. What is no name cannot be created at all. -/
theorem output_stays_inside :
    Grows (p.files.isAround p.store.outDirectory)
        (fun place => ∃ n : LogicalName, n.text ∈ (p.runRounds maxRounds).1.created ∧
          place = p.files.placeOf (Path.join p.store.outDirectory n.relativePath))
        p.files (p.runRounds maxRounds).2.files ∧
      (∃ final, Linked p.toWorkspace p.roundRequests final ∧
        final.files = (p.runRounds maxRounds).2.files) ∧
      (∀ r ∈ p.roundRequests,
        Grows (p.files.isAround p.store.outDirectory)
          (fun place => r.creates = true ∧
            place = p.files.placeOf (Path.join p.store.outDirectory r.artifact.name.relativePath))
          r.state.files r.after.files ∧
        (r.creates = true → r.artifact.name.text ∈ (p.runRounds maxRounds).1.created)) ∧
      (∀ n : LogicalName, n.fileComponents ≠ [] ∧
        (∀ part ∈ n.fileComponents, Path.IsNormal part) ∧
        Path.parts n.relativePath = n.fileComponents ∧ Path.isAbsolute n.relativePath = false ∧
        p.files.placeOf (Path.join p.store.outDirectory n.relativePath) =
          p.files.placeOf p.store.outDirectory ++ n.fileComponents) ∧
      ∀ w : Workspace DirectoryStore, Reached w.store → ∀ name e,
        LogicalName.parse name = .error e →
          ArtifactStore.create name w = (.error ⟨.invalidInput, e.message⟩, w) := by
  refine ⟨?_, ⟨_, p.runRound_linked, ?_⟩, ?_, ?_, fun w hw name e => create_of_parse_error hw⟩
  · rw [runRounds_workspace]
    refine p.runRound_writtenOn.grows.mono (fun _ => id) ?_
    rintro place ⟨r, hr, hcreates, hplace⟩
    exact ⟨r.artifact.name, p.mem_created_of_creates maxRounds hr hcreates, hplace⟩
  · rw [runRounds_workspace]
  · intro r hr
    obtain ⟨rs, hwritten⟩ := p.writtenOn_of_mem hr
    exact ⟨hwritten.request_grows, p.mem_created_of_creates maxRounds hr⟩
  · intro n
    exact ⟨n.fileComponents_ne_nil, n.isNormal_fileComponents, n.parts_relativePath,
      n.isAbsolute_relativePath, placeOf_join n⟩

/-- Two grammars, of which the second one has a parser above the output directory. -/
def climbingFiles : FileSystem :=
  ⟨["w"], [(["w"], .directory),
    (["w", "a.bnf"], .file (encodeText "\x7b parserClass = P \x7d a ::= B")),
    (["w", "b.bnf"], .file (encodeText "\x7b parserClass = \"..::Evil\" \x7d a ::= B"))],
    by decide⟩

/-- The units of the first grammar are made, and a step upwards is not taken. -/
theorem step_upwards_stays_out :
    let p : Processor (List Diagnostic) DirectoryStore :=
      ⟨⟨⟨.new "out" ["src"], climbingFiles⟩, []⟩, .standard, .standard,
        .ofPaths ["a.bnf", "b.bnf"]⟩
    let message := "invalid artifact name '..::Evil': '..' is not an identifier"
    (p.runRounds 8).1.created = ["Types", "P"] ∧
      (p.runRounds 8).2.sink = [.error ("invalid parserClass attribute: " ++ message)] ∧
      (p.runRounds 8).2.files.nodes.map (·.1) =
        p.files.nodes.map (·.1) ++ [["w", "out"], ["w", "out", "types.rs"], ["w", "out", "p.rs"]] ∧
      Grows (p.files.isAround "out")
        (fun place => ∃ n : LogicalName, n.text ∈ ["Types", "P"] ∧
          place = p.files.placeOf (Path.join "out" n.relativePath))
        p.files (p.runRounds 8).2.files ∧
      ArtifactStore.create "..::Evil" p.toWorkspace =
        (.error ⟨.invalidInput, message⟩, p.toWorkspace) := by
  intro p message
  have hparse : LogicalName.parse "..::Evil" = .error (.notIdentifier "..::Evil" "..") := by cbv
  have hcreated : (p.runRounds 8).1.created = ["Types", "P"] := by decide +kernel
  obtain ⟨hgrows, -, -, -, hrefused⟩ := output_stays_inside p 8
  rw [hcreated] at hgrows
  exact ⟨hcreated, by decide +kernel, by decide +kernel, hgrows,
    hrefused p.toWorkspace (.new ..) "..::Evil" _ hparse⟩

end Processor

end Runs

end GrammarForge
