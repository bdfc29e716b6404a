import GrammarForge.Proofs.FileSystem.Entries
import GrammarForge.Proofs.Store.Agreement

/-!
# Sessions with the same answers

As long as the file system does not fail, whoever uses a store does not learn from its answers
whether it is in memory or in a directory.
-/

namespace GrammarForge

open FileSystem

/-- A key that occurs once is found at its place. -/
theorem lookup_zipIdx {α : Type} [DecidableEq α] {keys : List α} (hnodup : keys.Nodup) {k : Nat}
    {key : α} (hk : keys[k]? = some key) (j : Nat) :
    (keys.zipIdx j).lookup key = some (j + k) := by
  induction keys generalizing j k with
  | nil => cases hk
  | cons first rest ih =>
      obtain ⟨hfirst, hrest⟩ := List.nodup_cons.1 hnodup
      rw [List.zipIdx_cons, List.lookup_cons]
      cases k with
      | zero =>
          cases hk
          simp
      | succ k =>
          have hmem : key ∈ rest := List.mem_of_getElem? hk
          have hne : (key == first) = false := by
            simpa using fun heq : key = first => hfirst (heq ▸ hmem)
          rw [hne]
          exact (ih hrest hk (j + 1)).trans (congrArg some (by omega))

namespace Comparison

variable {c : Comparison}

namespace Agree

variable {artifacts : List (LogicalName × Bytes)} {m : Session MemoryStore Nat}
  {d : Session DirectoryStore BufferedFile} {n : LogicalName}

theorem step (h : c.Agree artifacts m d) (step : SessionStep)
    (hnames : ∀ n ∈ step.name?, n ∈ c.names)
    (hnotFailed : ∀ e, (d.step step).1 ≠ .failed e) :
    (m.step step).1 = (d.step step).1 ∧
      ∃ artifacts', c.Agree artifacts' (m.step step).2 (d.step step).2 := by
  cases step with
  | contains name =>
      obtain ⟨hm, hd⟩ := h.contains_eq (hnames name rfl)
      exact ⟨congrArg SessionAnswer.contained (hm.trans hd.symm), artifacts, h⟩
  | request name => exact h.requestStep (hnames name rfl) hnotFailed
  | write i bytes => exact h.writeStep i bytes
  | flush i => exact h.flushStep i
  | close i => exact ⟨rfl, h.closeStep i⟩
  | takeCreated =>
      obtain ⟨hanswer, hagree⟩ := h.takeCreated
      exact ⟨congrArg SessionAnswer.created hanswer, artifacts, hagree⟩

theorem run {steps : List SessionStep} (h : c.Agree artifacts m d)
    (hnames : ∀ step ∈ steps, ∀ n ∈ step.name?, n ∈ c.names)
    (hnotFailed : ∀ e, .failed e ∉ (d.run steps).1) :
    (m.run steps).1 = (d.run steps).1 ∧
      ∃ artifacts', c.Agree artifacts' (m.run steps).2 (d.run steps).2 := by
  induction steps generalizing artifacts m d with
  | nil => exact ⟨rfl, artifacts, h⟩
  | cons step rest ih =>
      simp only [Session.run_cons, List.mem_cons, not_or] at hnotFailed ⊢
      obtain ⟨hanswer, artifacts', hstep⟩ := h.step step (hnames step (by simp)) fun e he =>
        (hnotFailed e).1 he.symm
      obtain ⟨hanswers, hrest⟩ := ih hstep (fun step hmem => hnames step (by simp [hmem]))
        fun e => (hnotFailed e).2
      exact ⟨by rw [hanswer, hanswers], hrest⟩

theorem createdNames_eq (h : c.Agree artifacts m d) :
    m.store.createdNames = (artifacts.map (·.1)).map (·.text) := by
  obtain ⟨fresh, hmemory, -⟩ := h.stores
  rw [hmemory, MemoryStore.createdNames]
  exact List.zipIdx_map_fst ..

theorem created_eq (h : c.Agree artifacts m d) :
    d.store.created = (artifacts.map (·.1)).map (·.text) := by
  obtain ⟨fresh, -, hdirectory⟩ := h.stores
  rw [hdirectory]

theorem text_mem_created (h : c.Agree artifacts m d) :
    n.text ∈ d.store.created ↔ n ∈ artifacts.map (·.1) := by
  rw [h.created_eq, mem_texts_iff]

theorem memory_contents (h : c.Agree artifacts m d) {k : Nat} {text : Bytes}
    (hk : artifacts[k]? = some (n, text)) : m.store.contents? n.text = some text := by
  obtain ⟨fresh, hmemory, -⟩ := h.stores
  have hkeys : ((artifacts.map (·.1)).map (·.text))[k]? = some n.text := by simp [hk]
  have hlookup := lookup_zipIdx (h.nodup.map LogicalName.text_injective) hkeys 0
  rw [hmemory, MemoryStore.contents?, hlookup]
  simp [hk]

theorem directory_contents (h : c.Agree artifacts m d) (hclosed : d.IsClosed) {k : Nat}
    {text : Bytes} (hk : artifacts[k]? = some (n, text)) :
    d.store.contents? n.text d.files = some text := by
  have hopen : ∀ i, m.sinks i ≠ some (.artifact k) := by
    intro i hi
    have hrequested : i < d.requested := h.requested ▸ h.lt_requested (by simp [hi])
    obtain ⟨-, writer, hwriter⟩ := h.of_sink hi
    rw [hclosed i hrequested] at hwriter
    cases hwriter
  exact DirectoryStore.contents?_text (h.filePath_eq n ▸ h.locate n (name_mem hk))
    (h.closed k n text hk hopen)

/-- In the output directory are the files of the artifacts. -/
theorem isFile_below (h : c.Agree artifacts m d) {place : Location}
    (hbelow : c.files.placeOf c.outDirectory <+: place) (hfile : d.files.IsFile place) :
    ∃ n ∈ artifacts.map (·.1), place = c.place n := by
  rcases h.grows.isFile_cases hfile with hbefore | hwritten
  · exact absurd hbefore (c.empty place hbelow)
  · exact hwritten

end Agree

/-- A session with the store in memory, in a file system that it does not use. -/
def inMemory (c : Comparison) (elsewhere : FileSystem) (steps : List SessionStep) :
    List SessionAnswer × Session MemoryStore Nat :=
  (Session.start ⟨c.memory, elsewhere⟩).run steps

/-- The session with the store in the output directory. -/
def inDirectory (c : Comparison) (steps : List SessionStep) :
    List SessionAnswer × Session DirectoryStore BufferedFile :=
  (Session.start ⟨c.directory, c.files⟩).run steps

/-- A name whose file is among the sources, and two others. -/
def smallNames : List LogicalName :=
  [⟨[], ⟨"a", by decide +kernel, by decide +kernel⟩⟩,
    ⟨[⟨"m", by decide +kernel, by decide +kernel⟩], ⟨"b", by decide +kernel, by decide +kernel⟩⟩,
    ⟨[], ⟨"c", by decide +kernel, by decide +kernel⟩⟩]

def smallFiles : FileSystem :=
  ⟨["w"], [(["w"], .directory), (["w", "s"], .directory), (["w", "s", "a.rs"], .file [])],
    by decide⟩

theorem eq_of_isFile_smallFiles {place : Location} (h : smallFiles.IsFile place) :
    place = ["w", "s", "a.rs"] := by
  obtain ⟨content, hnode⟩ := h
  by_contra hne
  simp only [node?, smallFiles, List.lookup_cons, beq_false_of_ne hne, List.lookup_nil] at hnode
  split at hnode
  · cases hnode
  · split at hnode
    · cases hnode
    · split at hnode <;> cases hnode

def small : Comparison where
  names := { n | n ∈ smallNames }
  known := smallNames.take 1
  outDirectory := "d"
  root := "s"
  files := smallFiles
  injective := by
    intro a ha b hb hpath
    exact List.inj_on_of_nodup_map (by decide +kernel) ha hb hpath
  known_mem := fun _ hn => List.mem_of_mem_take hn
  handWritten := by decide +kernel
  missing := by
    intro n hn hknown hfile
    have hplace : ∀ n ∈ smallNames.drop 1,
        smallFiles.placeOf (Path.join "s" n.relativePath) ≠ ["w", "s", "a.rs"] := by decide +kernel
    rcases List.mem_append.1 ((List.take_append_drop 1 smallNames).symm ▸ hn) with htake | hdrop
    · exact hknown htake
    · exact hplace n hdrop (eq_of_isFile_smallFiles hfile)
  empty := by
    have hd : smallFiles.placeOf "d" = ["w", "d"] := by decide +kernel
    rintro place ⟨rest, rfl⟩ hfile
    have hplace := eq_of_isFile_smallFiles hfile
    simp [hd] at hplace
  outside := by decide +kernel
  separate := by decide +kernel

def smallSteps : List SessionStep :=
  smallNames.map .request ++
    [.close 0, .write 1 [104], .write 2 [120], .write 1 [105], .close 2, .takeCreated, .close 1]

end Comparison

end GrammarForge
