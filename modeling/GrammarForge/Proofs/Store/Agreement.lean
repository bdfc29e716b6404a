import GrammarForge.Proofs.Store.DirectoryFiles
import GrammarForge.Proofs.Store.MemoryHistory
import GrammarForge.Proofs.Store.Sessions

/-!
# Stores that agree

Names with paths of their own cannot tell a store in memory from one in an empty directory. What the
one knows from the start the other finds in a directory of sources. All that can be done with a
store keeps the two in agreement. An artifact whose sink has been closed has the same text in both.
-/

namespace GrammarForge

open FileSystem DirectoryStore

/-- To a store in memory that refuses nothing, a new name is requested by adding it. -/
theorem MemoryStore.request_of_new {w : Workspace MemoryStore} {name : String}
    (h : w.store.contains name = false) (hrefused : w.store.refused = []) :
    w.request name =
      (.ok (.artifact w.store.buffers.length), { w with store := w.store.add name [] }) := by
  have hdecision : w.decisionFor name = .write := if_neg (ne_true_of_eq_false h)
  have hlookup : w.store.created.lookup name = none := by
    have hcreated := (Bool.or_eq_false_iff.1 h).2
    simpa using hcreated
  have hcreate : w.store.create name = (.ok w.store.buffers.length, w.store.add name []) := by
    rw [MemoryStore.create, hrefused, if_neg (by simp), MemoryStore.assign_of_lookup_none hlookup,
      MemoryStore.add, hrefused]
  simp only [Workspace.request, hdecision, ArtifactStore.create, hcreate]
  rfl

/-- To a store in a directory a request fails with an error of the file system only, which has been
asked for the file of a new name. -/
theorem Session.requestStep_failed_iff {d : Session DirectoryStore BufferedFile} {n : LogicalName}
    {e : SystemError} : (d.requestStep n).1 = .failed e ↔
      d.store.contains n.text d.files = false ∧
        (d.files.createFileAndParents (d.store.filePath n)).1 = .error e := by
  cases hcontains : d.store.contains n.text d.files with
  | true =>
      have hd := Workspace.request_of_contains (w := d.toWorkspace) hcontains
      simp [requestStep, hd]
  | false =>
      have hd := DirectoryStore.request_of_new hcontains
      cases hfile : d.files.createFileAndParents (d.store.filePath n) with
      | mk result files =>
          rw [hfile] at hd
          cases result with
          | error e' => simp [requestStep, hd]
          | ok place => simp [requestStep, hd]

/-- The situation in which stores are compared: names with different relative paths, some of which
have a file below a source root, an output directory without files, and neither of the two
directories inside the other. -/
structure Comparison where
  names : Set LogicalName
  known : List LogicalName
  outDirectory : String
  root : String
  files : FileSystem
  injective : ∀ a ∈ names, ∀ b ∈ names, a.relativePath = b.relativePath → a = b
  known_mem : ∀ n ∈ known, n ∈ names
  handWritten : ∀ n ∈ known, files.isFileAt (Path.join root n.relativePath) = true
  missing : ∀ n ∈ names, n ∉ known →
    ¬ files.IsFile (files.placeOf (Path.join root n.relativePath))
  empty : ∀ place, files.placeOf outDirectory <+: place → ¬ files.IsFile place
  outside : ¬ files.placeOf outDirectory <+: files.placeOf root
  separate : ¬ files.placeOf root <+: files.placeOf outDirectory

namespace Comparison

variable (c : Comparison)

def memory : MemoryStore := .new (c.known.map (·.text)) []

def directory : DirectoryStore := .new c.outDirectory [c.root]

/-- The path of the file of a name. -/
def filePath (n : LogicalName) : String := Path.join c.outDirectory n.relativePath

def place (n : LogicalName) : Location := c.files.placeOf (c.filePath n)

/-- What the sinks of one number are in the two sessions. The files have what was written so far to
the artifact, or the buffer has it. -/
inductive Pair (artifacts : List (LogicalName × Bytes)) (files : FileSystem) :
    Option (ArtifactSink Nat) → Option (ArtifactSink BufferedFile) → Prop
  | none : Pair artifacts files none none
  | discard : Pair artifacts files (some .discard) (some .discard)
  | artifact {k : Nat} {n : LogicalName} {text : Bytes} {writer : BufferedFile} :
      artifacts[k]? = some (n, text) → writer.place = c.place n → writer.Holds files text →
      Pair artifacts files (some (.artifact k)) (some (.artifact writer))

/-- Both stores have the same artifacts, and the file of each of them is in place. -/
structure SameArtifacts (artifacts : List (LogicalName × Bytes)) (m : Workspace MemoryStore)
    (d : Workspace DirectoryStore) : Prop where
  mem : ∀ n ∈ artifacts.map (·.1), n ∈ c.names
  nodup : (artifacts.map (·.1)).Nodup
  stores : ∃ fresh, m.store = ⟨c.known.map (·.text), [], artifacts.map (·.2),
      ((artifacts.map (·.1)).map (·.text)).zipIdx, fresh⟩ ∧
    d.store = ⟨c.outDirectory, [c.root], (artifacts.map (·.1)).map (·.text), fresh⟩
  grows : Grows (c.files.isAround c.outDirectory)
    (fun place => ∃ n ∈ artifacts.map (·.1), place = c.place n) c.files d.files
  locate : ∀ n ∈ artifacts.map (·.1), d.files.locate (c.filePath n) = .ok (c.place n)

/-- The sinks are in pairs, and no two of them write to one artifact. An artifact that nobody writes
to has its text in its file. -/
structure SameSinks (artifacts : List (LogicalName × Bytes)) (files : FileSystem)
    (sinks : Nat → Option (ArtifactSink Nat)) (writers : Nat → Option (ArtifactSink BufferedFile)) :
    Prop where
  pairs : ∀ i, c.Pair artifacts files (sinks i) (writers i)
  apart : ∀ i j k, sinks i = some (.artifact k) → sinks j = some (.artifact k) → i = j
  closed : ∀ k n text, artifacts[k]? = some (n, text) →
    (∀ i, sinks i ≠ some (.artifact k)) → files.node? (c.place n) = some (.file text)

/-- The two sessions have made the same artifacts, with the same texts so far. -/
structure Agree (artifacts : List (LogicalName × Bytes)) (m : Session MemoryStore Nat)
    (d : Session DirectoryStore BufferedFile) : Prop extends
    c.SameArtifacts artifacts m.toWorkspace d.toWorkspace,
    c.SameSinks artifacts d.files m.sinks d.sinks where
  requested : m.requested = d.requested
  unused : ∀ i, m.requested ≤ i → m.sinks i = none

variable {c}

theorem place_eq (n : LogicalName) :
    c.place n = c.files.placeOf c.outDirectory ++ n.fileComponents := placeOf_join n

theorem place_injective {a b : LogicalName} (ha : a ∈ c.names) (hb : b ∈ c.names)
    (h : c.place a = c.place b) : a = b := by
  rw [place_eq, place_eq] at h
  exact c.injective a ha b hb (LogicalName.relativePath_eq_iff.2 (List.append_cancel_left h))

/-- The two directories have nothing in common. -/
theorem place_ne_handWritten (n m : LogicalName) :
    c.place n ≠ c.files.placeOf (Path.join c.root m.relativePath) := by
  rw [place_eq, placeOf_join]
  intro h
  rcases List.prefix_or_prefix_of_prefix (List.prefix_append _ n.fileComponents)
    (h ▸ List.prefix_append _ m.fileComponents) with hout | hroot
  · exact c.outside hout
  · exact c.separate hroot

/-- A pair of sinks goes on as it is when something else is written. -/
theorem Pair.frame {artifacts artifacts' : List (LogicalName × Bytes)} {files files' : FileSystem}
    {made written : Location → Prop} {a : Option (ArtifactSink Nat)}
    {b : Option (ArtifactSink BufferedFile)} (h : c.Pair artifacts files a b)
    (hgrows : Grows made written files files')
    (hkept : ∀ k n text, a = some (.artifact k) → artifacts[k]? = some (n, text) →
      artifacts'[k]? = some (n, text) ∧ ¬ written (c.place n)) :
    c.Pair artifacts' files' a b := by
  cases h with
  | none => exact .none
  | discard => exact .discard
  | artifact hk hplace hholds =>
      obtain ⟨hk', hwritten⟩ := hkept _ _ _ rfl hk
      exact .artifact hk' hplace (hholds.frame hgrows (hplace ▸ hwritten))

theorem name_mem {artifacts : List (LogicalName × Bytes)} {k : Nat} {n : LogicalName} {text : Bytes}
    (hk : artifacts[k]? = some (n, text)) : n ∈ artifacts.map (·.1) :=
  List.mem_map.2 ⟨(n, text), List.mem_of_getElem? hk, rfl⟩

theorem mem_texts_iff (names : List LogicalName) (n : LogicalName) :
    n.text ∈ names.map (·.text) ↔ n ∈ names := by
  constructor
  · intro h
    obtain ⟨k, hmem, htext⟩ := List.mem_map.1 h
    exact LogicalName.text_injective htext ▸ hmem
  · exact fun h => List.mem_map.2 ⟨n, h, rfl⟩

/-- What an artifact is made of may change, its name does not. -/
theorem map_fst_set {artifacts : List (LogicalName × Bytes)} {k : Nat} {n : LogicalName}
    {text : Bytes} (hk : artifacts[k]? = some (n, text)) (text' : Bytes) :
    (artifacts.set k (n, text')).map (·.1) = artifacts.map (·.1) := by
  have hname : (artifacts.map (·.1))[k]? = some n := by simp [hk]
  obtain ⟨hlt, hget⟩ := List.getElem?_eq_some_iff.1 hname
  rw [List.map_set, ← hget]
  exact List.set_getElem_self hlt

/-! ## The same artifacts -/

namespace SameArtifacts

variable {artifacts : List (LogicalName × Bytes)} {m : Workspace MemoryStore}
  {d : Workspace DirectoryStore} {n : LogicalName}

theorem filePath_eq (h : c.SameArtifacts artifacts m d) (n : LogicalName) :
    d.store.filePath n = c.filePath n := by
  obtain ⟨fresh, -, hdirectory⟩ := h.stores
  rw [DirectoryStore.filePath, hdirectory, filePath]

theorem buffers_eq (h : c.SameArtifacts artifacts m d) :
    m.store.buffers = artifacts.map (·.2) := by
  obtain ⟨fresh, hmemory, -⟩ := h.stores
  rw [hmemory]

/-- The sources that were there are there, and there are no others. -/
theorem isFileAt_root (h : c.SameArtifacts artifacts m d) (hn : n ∈ c.names) :
    d.files.isFileAt (Path.join c.root n.relativePath) = decide (n ∈ c.known) := by
  have hwritten : ∀ place, place = c.files.placeOf (Path.join c.root n.relativePath) →
      ¬ ∃ a ∈ artifacts.map (·.1), place = c.place a := by
    rintro _ rfl ⟨a, -, hsame⟩
    exact place_ne_handWritten a n hsame.symm
  by_cases hknown : n ∈ c.known
  · obtain ⟨place, hlocate, content, hnode⟩ := isFileAt_iff.1 (c.handWritten n hknown)
    rw [decide_eq_true hknown, isFileAt_iff]
    exact ⟨place, h.grows.locate hlocate, content,
      h.grows.file_eq hnode (hwritten place (eq_placeOf_of_locate hlocate))⟩
  · rw [decide_eq_false hknown, Bool.eq_false_iff]
    intro hfile
    obtain ⟨place, hlocate, hisFile⟩ := isFileAt_iff.1 hfile
    have hplace := eq_placeOf_of_locate hlocate
    rw [placeOf_congr h.grows.current] at hplace
    rcases h.grows.isFile_cases hisFile with hbefore | hmade
    · exact c.missing n hn hknown (hplace ▸ hbefore)
    · exact hwritten place hplace hmade

/-- Both stores contain the names known from the start and those of the artifacts. -/
theorem contains_eq (h : c.SameArtifacts artifacts m d) (hn : n ∈ c.names) :
    m.store.contains n.text = decide (n ∈ c.known ∨ n ∈ artifacts.map (·.1)) ∧
      d.store.contains n.text d.files = decide (n ∈ c.known ∨ n ∈ artifacts.map (·.1)) := by
  obtain ⟨fresh, hmemory, hdirectory⟩ := h.stores
  constructor
  · rw [hmemory, MemoryStore.contains, isSome_lookup_zipIdx, Bool.eq_iff_iff]
    simp only [Bool.or_eq_true, List.contains_iff_mem, decide_eq_true_eq, mem_texts_iff]
  · rw [hdirectory, DirectoryStore.contains, isHandWritten_text, Bool.eq_iff_iff]
    simp only [List.any_cons, List.any_nil, Bool.or_false, h.isFileAt_root hn, Bool.or_eq_true,
      List.contains_iff_mem, decide_eq_true_eq, mem_texts_iff]
    exact or_comm

/-- Different artifacts have different places. -/
theorem place_ne (h : c.SameArtifacts artifacts m d) {k l : Nat} {a b : LogicalName} {s t : Bytes}
    (hk : artifacts[k]? = some (a, s)) (hl : artifacts[l]? = some (b, t)) (hne : k ≠ l) :
    c.place a ≠ c.place b := by
  intro hplace
  have hname := place_injective (h.mem a (name_mem hk)) (h.mem b (name_mem hl)) hplace
  have hka : (artifacts.map (·.1))[k]? = some a := by simp [hk]
  have hlb : (artifacts.map (·.1))[l]? = some a := by simp [hl, hname]
  have hlt := (List.getElem?_eq_some_iff.1 hka).1
  exact hne ((List.getElem?_inj hlt h.nodup).1 (hka.trans hlb.symm))

/-- One artifact changes, together with its file. -/
theorem set (h : c.SameArtifacts artifacts m d) {k : Nat} {text : Bytes} {files' : FileSystem}
    (hk : artifacts[k]? = some (n, text)) (text' : Bytes)
    (hgrows : Grows nowhere (· = c.place n) d.files files') :
    c.SameArtifacts (artifacts.set k (n, text'))
      { m with store := { m.store with buffers := (artifacts.set k (n, text')).map (·.2) } }
      { d with files := files' } := by
  have hnames := map_fst_set hk text'
  obtain ⟨fresh, hmemory, hdirectory⟩ := h.stores
  refine ⟨hnames ▸ h.mem, hnames ▸ h.nodup, ⟨fresh, ?_, ?_⟩, ?_, ?_⟩
  · rw [hmemory, hnames]
  · rw [hdirectory, hnames]
  · rw [hnames]
    refine h.grows.trans (hgrows.mono (fun _ => False.elim) ?_)
    exact fun place hplace => ⟨n, name_mem hk, hplace⟩
  · rw [hnames]
    exact fun a ha => hgrows.locate (h.locate a ha)

/-- A new artifact is made, together with its file. -/
theorem append (h : c.SameArtifacts artifacts m d) (hn : n ∈ c.names)
    (hnew : n ∉ artifacts.map (·.1)) {files' : FileSystem} (fresh : List String)
    (hgrows : Grows (d.files.onTheWay (c.filePath n)) (· = c.place n) d.files files')
    (hlocate : files'.locate (c.filePath n) = .ok (c.place n)) :
    c.SameArtifacts (artifacts ++ [(n, [])])
      ⟨⟨c.known.map (·.text), [], artifacts.map (·.2) ++ [[]],
        ((artifacts.map (·.1)).map (·.text)).zipIdx ++ [(n.text, artifacts.length)],
        fresh ++ [n.text]⟩, m.files⟩
      ⟨⟨c.outDirectory, [c.root], (artifacts.map (·.1)).map (·.text) ++ [n.text],
        fresh ++ [n.text]⟩, files'⟩ := by
  have hnames : (artifacts ++ [(n, ([] : Bytes))]).map (·.1) = artifacts.map (·.1) ++ [n] :=
    List.map_append
  refine ⟨?_, ?_, ⟨fresh ++ [n.text], ?_, ?_⟩, ?_, ?_⟩
  · rw [hnames]
    intro a ha
    rcases List.mem_append.1 ha with hbefore | hlast
    · exact h.mem a hbefore
    · exact List.mem_singleton.1 hlast ▸ hn
  · rw [hnames]
    have hconcat := h.nodup.concat hnew
    rwa [List.concat_eq_append] at hconcat
  · simp [List.zipIdx_append]
  · simp
  · rw [hnames]
    refine Grows.trans (h.grows.mono (fun _ => id) ?_) (hgrows.mono ?_ ?_)
    · exact fun place ⟨a, ha, hplace⟩ => ⟨a, List.mem_append_left _ ha, hplace⟩
    · intro place hplace
      rw [← isAround_congr h.grows.current]
      exact isAround_of_onTheWay (s := c.directory) hplace
    · exact fun place hplace => ⟨n, by simp, hplace⟩
  · rw [hnames]
    intro a ha
    rcases List.mem_append.1 ha with hbefore | hlast
    · exact hgrows.locate (h.locate a hbefore)
    · exact List.mem_singleton.1 hlast ▸ hlocate

end SameArtifacts

/-! ## The same sinks -/

namespace SameSinks

variable {artifacts artifacts' : List (LogicalName × Bytes)} {files files' : FileSystem}
  {sinks : Nat → Option (ArtifactSink Nat)} {writers : Nat → Option (ArtifactSink BufferedFile)}

theorem sink_cases (h : c.SameSinks artifacts files sinks writers) (i : Nat) :
    (sinks i = none ∧ writers i = none) ∨
      (sinks i = some .discard ∧ writers i = some .discard) ∨
      ∃ k n text writer, sinks i = some (.artifact k) ∧ writers i = some (.artifact writer) ∧
        artifacts[k]? = some (n, text) ∧ writer.place = c.place n ∧ writer.Holds files text := by
  have hpair := h.pairs i
  generalize sinks i = a at hpair
  generalize writers i = b at hpair
  cases hpair with
  | none => exact .inl ⟨rfl, rfl⟩
  | discard => exact .inr (.inl ⟨rfl, rfl⟩)
  | artifact hk hplace hholds => exact .inr (.inr ⟨_, _, _, _, rfl, rfl, hk, hplace, hholds⟩)

/-- A sink that writes to an artifact. -/
theorem of_sink (h : c.SameSinks artifacts files sinks writers) {i k : Nat}
    (hsink : sinks i = some (.artifact k)) :
    k < artifacts.length ∧ ∃ writer, writers i = some (.artifact writer) := by
  rcases h.sink_cases i with ⟨hi, -⟩ | ⟨hi, -⟩ | ⟨l, n, text, writer, hi, hwriter, hl, -⟩
  · rw [hsink] at hi
    cases hi
  · rw [hsink] at hi
    cases hi
  · rw [hsink] at hi
    cases hi
    exact ⟨(List.getElem?_eq_some_iff.1 hl).1, writer, hwriter⟩

/-- One pair of sinks changes, and what is known of the others remains true. -/
theorem update (h : c.SameSinks artifacts files sinks writers) {i : Nat}
    {a : Option (ArtifactSink Nat)} {b : Option (ArtifactSink BufferedFile)}
    (hpair : c.Pair artifacts' files' a b)
    (hothers : ∀ j ≠ i, c.Pair artifacts' files' (sinks j) (writers j))
    (hapart : ∀ j ≠ i, ∀ k, a = some (.artifact k) → sinks j ≠ some (.artifact k))
    (hclosed : ∀ k n text, artifacts'[k]? = some (n, text) → a ≠ some (.artifact k) →
      (∀ j ≠ i, sinks j ≠ some (.artifact k)) → files'.node? (c.place n) = some (.file text)) :
    c.SameSinks artifacts' files' (Function.update sinks i a) (Function.update writers i b) := by
  refine ⟨fun j => ?_, fun j l k hj hl => ?_, fun k n text hk hopen => ?_⟩
  · by_cases hji : j = i
    · subst hji
      simpa only [Function.update_self] using hpair
    · simpa only [Function.update_of_ne hji] using hothers j hji
  · by_cases hji : j = i
    · subst hji
      by_contra hne
      rw [Function.update_self] at hj
      rw [Function.update_of_ne (Ne.symm hne)] at hl
      exact hapart l (Ne.symm hne) k hj hl
    · rw [Function.update_of_ne hji] at hj
      by_cases hli : l = i
      · subst hli
        rw [Function.update_self] at hl
        exact absurd hj (hapart j hji k hl)
      · rw [Function.update_of_ne hli] at hl
        exact h.apart j l k hj hl
  · refine hclosed k n text hk ?_ fun j hj => ?_
    · have hi := hopen i
      rwa [Function.update_self] at hi
    · have hother := hopen j
      rwa [Function.update_of_ne hj] at hother

/-- A pair of sinks changes that does not write to an artifact, before and after. -/
theorem update_idle (h : c.SameSinks artifacts files sinks writers) {i : Nat}
    {a : Option (ArtifactSink Nat)} {b : Option (ArtifactSink BufferedFile)}
    (hpair : c.Pair artifacts files a b) (hbefore : ∀ k, sinks i ≠ some (.artifact k))
    (hafter : ∀ k, a ≠ some (.artifact k)) :
    c.SameSinks artifacts files (Function.update sinks i a) (Function.update writers i b) := by
  refine h.update hpair (fun j _ => h.pairs j) (fun j _ k ha => absurd ha (hafter k)) ?_
  intro k n text hk _ hopen
  refine h.closed k n text hk fun j hj => ?_
  by_cases hji : j = i
  · exact hbefore k (hji ▸ hj)
  · exact hopen j hji hj

end SameSinks

namespace Agree

variable {artifacts : List (LogicalName × Bytes)} {m : Session MemoryStore Nat}
  {d : Session DirectoryStore BufferedFile} {n : LogicalName}

theorem start (w : Workspace MemoryStore) (hw : w.store = c.memory) :
    c.Agree [] (.start w) (.start ⟨c.directory, c.files⟩) := by
  have hmemory : (Session.start w : Session MemoryStore Nat).store =
      ⟨c.known.map (·.text), [], [], [], []⟩ := hw
  exact ⟨⟨by simp, by simp, ⟨[], hmemory, rfl⟩, Grows.refl _, by simp⟩,
    ⟨fun _ => .none, by simp [Session.start], by simp⟩, rfl, fun _ _ => rfl⟩

/-- Sinks that have not been requested are not there, whichever other one changes. -/
theorem unused_update (h : c.Agree artifacts m d) {i requested : Nat} (hi : i < requested)
    (hle : m.requested ≤ requested) (a : Option (ArtifactSink Nat)) :
    ∀ j, requested ≤ j → Function.update m.sinks i a j = none := by
  intro j hj
  rw [Function.update_of_ne (by omega)]
  exact h.unused j (by omega)

/-- Only sinks that have been requested are there. -/
theorem lt_requested (h : c.Agree artifacts m d) {i : Nat} (hsink : m.sinks i ≠ none) :
    i < m.requested := by
  by_contra hle
  exact hsink (h.unused i (Nat.not_lt.1 hle))

/-- One artifact changes, together with its file and its sink. -/
theorem replace (h : c.Agree artifacts m d) {i k : Nat} {text text' : Bytes} {files' : FileSystem}
    {a : Option (ArtifactSink Nat)} {b : Option (ArtifactSink BufferedFile)}
    (hsink : m.sinks i = some (.artifact k)) (hk : artifacts[k]? = some (n, text))
    (hgrows : Grows nowhere (· = c.place n) d.files files')
    (hpair : c.Pair (artifacts.set k (n, text')) files' a b)
    (ha : a = some (.artifact k) ∨ a = none ∧ files'.node? (c.place n) = some (.file text')) :
    c.Agree (artifacts.set k (n, text'))
      ⟨{ m.toWorkspace with store := { m.store with
          buffers := (artifacts.set k (n, text')).map (·.2) } },
        m.requested, Function.update m.sinks i a⟩
      ⟨{ d.toWorkspace with files := files' }, d.requested, Function.update d.sinks i b⟩ := by
  have hother : ∀ l, l ≠ k → (artifacts.set k (n, text'))[l]? = artifacts[l]? := by
    intro l hl
    rw [List.getElem?_set_ne (Ne.symm hl)]
  -- Nobody else writes to the artifact.
  have halone : ∀ j ≠ i, m.sinks j ≠ some (.artifact k) :=
    fun j hji hj => hji (h.apart j i k hj hsink)
  have hi : i < m.requested := h.lt_requested (by simp [hsink])
  refine ⟨h.toSameArtifacts.set hk text' hgrows, h.toSameSinks.update hpair ?_ ?_ ?_,
    h.requested, h.unused_update hi (Nat.le_refl _) a⟩
  · intro j hji
    refine (h.pairs j).frame hgrows fun l n' t hj hl => ?_
    have hlk : l ≠ k := by
      rintro rfl
      exact halone j hji hj
    exact ⟨(hother l hlk).trans hl, h.place_ne hl hk hlk⟩
  · rintro j hji l rfl
    obtain hl | ⟨hl, -⟩ := ha
    · cases hl
      exact halone j hji
    · cases hl
  · intro l n' t hl hopen hothers
    by_cases hlk : l = k
    · subst hlk
      obtain ha | ⟨-, hnode⟩ := ha
      · exact absurd ha hopen
      · rw [List.getElem?_set_self (List.getElem?_eq_some_iff.1 hk).1] at hl
        cases hl
        exact hnode
    · rw [hother l hlk] at hl
      refine hgrows.file_eq (h.closed l n' t hl fun j hj => ?_) (h.place_ne hl hk hlk)
      by_cases hji : j = i
      · rw [hji, hsink] at hj
        cases hj
        exact hlk rfl
      · exact hothers j hji hj

/-! ## Requests -/

/-- A name that is there is requested. -/
theorem discard (h : c.Agree artifacts m d) :
    c.Agree artifacts
      ⟨m.toWorkspace, m.requested + 1, Function.update m.sinks m.requested (some .discard)⟩
      ⟨d.toWorkspace, d.requested + 1, Function.update d.sinks d.requested (some .discard)⟩ := by
  rw [← h.requested]
  refine ⟨h.toSameArtifacts, h.toSameSinks.update_idle .discard ?_ (by simp), rfl,
    h.unused_update (Nat.lt_succ_self _) (Nat.le_succ _) _⟩
  simp [h.unused m.requested (Nat.le_refl _)]

/-- A new name is requested, and its file is made. -/
theorem make (h : c.Agree artifacts m d) (hn : n ∈ c.names) (hnew : n ∉ artifacts.map (·.1))
    {files' : FileSystem} (fresh : List String)
    (hgrows : Grows (d.files.onTheWay (c.filePath n)) (· = c.place n) d.files files')
    (hnode : files'.node? (c.place n) = some (.file []))
    (hlocate : files'.locate (c.filePath n) = .ok (c.place n)) :
    c.Agree (artifacts ++ [(n, [])])
      ⟨⟨⟨c.known.map (·.text), [], artifacts.map (·.2) ++ [[]],
          ((artifacts.map (·.1)).map (·.text)).zipIdx ++ [(n.text, artifacts.length)],
          fresh ++ [n.text]⟩, m.files⟩, m.requested + 1,
        Function.update m.sinks m.requested (some (.artifact artifacts.length))⟩
      ⟨⟨⟨c.outDirectory, [c.root], (artifacts.map (·.1)).map (·.text) ++ [n.text],
          fresh ++ [n.text]⟩, files'⟩, d.requested + 1,
        Function.update d.sinks d.requested (some (.artifact (.new (c.place n))))⟩ := by
  have hold : ∀ (k : Nat) a text, artifacts[k]? = some (a, text) →
      (artifacts ++ [(n, [])])[k]? = some (a, text) ∧ c.place a ≠ c.place n := by
    intro k a text hk
    refine ⟨List.getElem?_append_left (List.getElem?_eq_some_iff.1 hk).1 ▸ hk, fun hplace => ?_⟩
    have hmem := name_mem hk
    exact hnew (place_injective (h.mem a hmem) hn hplace ▸ hmem)
  have hlast : (artifacts ++ [(n, ([] : Bytes))])[artifacts.length]? = some (n, []) :=
    List.getElem?_concat_length
  rw [← h.requested]
  refine ⟨h.toSameArtifacts.append hn hnew fresh hgrows hlocate, h.toSameSinks.update
    (.artifact hlast (BufferedFile.new_place _) (BufferedFile.holds_new hnode)) ?_ ?_ ?_, rfl,
    h.unused_update (Nat.lt_succ_self _) (Nat.le_succ _) _⟩
  · exact fun j _ => (h.pairs j).frame hgrows fun k a text _ hk => hold k a text hk
  · rintro j - k ⟨⟩ hj
    exact Nat.lt_irrefl _ (h.of_sink hj).1
  · intro k a text hk hopen hothers
    have hlt : k < artifacts.length := by
      have hbound := (List.getElem?_eq_some_iff.1 hk).1
      rw [List.length_append, List.length_singleton] at hbound
      have hne : k ≠ artifacts.length := by
        rintro rfl
        exact hopen rfl
      omega
    rw [List.getElem?_append_left hlt] at hk
    refine hgrows.file_eq (h.closed k a text hk fun i hi => ?_) (hold k a text hk).2
    exact hothers i (Nat.ne_of_lt (h.lt_requested (by simp [hi]))) hi

/-- A new name is requested from the store in the directory. Unless the file system fails, it has a
file then. -/
theorem request_made (h : c.Agree artifacts m d)
    (hcontains : d.store.contains n.text d.files = false)
    (hnotFailed : ∀ e, (d.requestStep n).1 ≠ .failed e) : ∃ files',
      d.toWorkspace.request n.text =
        (.ok (.artifact (.new (c.place n))), ⟨d.store.record n.text, files'⟩) ∧
      Grows (d.files.onTheWay (c.filePath n)) (· = c.place n) d.files files' ∧
      files'.node? (c.place n) = some (.file []) ∧
      files'.locate (c.filePath n) = .ok (c.place n) := by
  have hd := DirectoryStore.request_of_new hcontains
  have hresult : ∀ e, (d.files.createFileAndParents (d.store.filePath n)).1 ≠ .error e :=
    fun e he => hnotFailed e (Session.requestStep_failed_iff.2 ⟨hcontains, he⟩)
  rw [h.filePath_eq] at hd hresult
  cases hfile : d.files.createFileAndParents (c.filePath n) with
  | mk result files' =>
      rw [hfile] at hd hresult
      cases result with
      | error e => exact absurd rfl (hresult e)
      | ok place =>
          obtain ⟨hgrows, hmade⟩ := createFileAndParents_grows hfile
          obtain ⟨hplace, hnode, hlocate⟩ := hmade place rfl
          rw [placeOf_congr h.grows.current] at hplace
          change place = c.place n at hplace
          subst hplace
          refine ⟨files', hd, hgrows.mono (fun _ => id) ?_, hnode, hlocate⟩
          rintro _ ⟨rfl⟩
          rfl

/-- A request has the same answer from both stores, unless the file system fails. -/
theorem requestStep (h : c.Agree artifacts m d) (hn : n ∈ c.names)
    (hnotFailed : ∀ e, (d.requestStep n).1 ≠ .failed e) :
    (m.requestStep n).1 = (d.requestStep n).1 ∧
      ∃ artifacts', c.Agree artifacts' (m.requestStep n).2 (d.requestStep n).2 := by
  obtain ⟨hmcontains, hdcontains⟩ := h.contains_eq hn
  by_cases hin : n ∈ c.known ∨ n ∈ artifacts.map (·.1)
  · rw [decide_eq_true hin] at hmcontains hdcontains
    have hm := Workspace.request_of_contains (w := m.toWorkspace) hmcontains
    have hd := Workspace.request_of_contains (w := d.toWorkspace) hdcontains
    simp only [Session.requestStep, hm, hd]
    exact ⟨rfl, artifacts, h.discard⟩
  · rw [decide_eq_false hin] at hmcontains hdcontains
    obtain ⟨fresh, hmemory, hdirectory⟩ := h.stores
    have hnew : n ∉ artifacts.map (·.1) := fun hmem => hin (.inr hmem)
    have hm := MemoryStore.request_of_new hmcontains (by rw [hmemory])
    obtain ⟨files', hd, hgrows, hnode, hlocate⟩ := h.request_made hdcontains hnotFailed
    have hadd : m.store.add n.text [] = ⟨c.known.map (·.text), [], artifacts.map (·.2) ++ [[]],
        ((artifacts.map (·.1)).map (·.text)).zipIdx ++ [(n.text, artifacts.length)],
        fresh ++ [n.text]⟩ := by
      rw [hmemory]
      simp [MemoryStore.add]
    have hlength : m.store.buffers.length = artifacts.length := by
      rw [h.buffers_eq, List.length_map]
    have hrecord : d.store.record n.text = ⟨c.outDirectory, [c.root],
        (artifacts.map (·.1)).map (·.text) ++ [n.text], fresh ++ [n.text]⟩ := by
      rw [hdirectory]
      rfl
    simp only [Session.requestStep, hm, hd]
    refine ⟨rfl, artifacts ++ [(n, [])], ?_⟩
    rw [hadd, hlength, hrecord]
    exact h.make hn hnew fresh hgrows hnode hlocate

/-! ## The use of sinks -/

theorem writeStep (h : c.Agree artifacts m d) (i : Nat) (bytes : Bytes) :
    (m.writeStep i bytes).1 = (d.writeStep i bytes).1 ∧
      ∃ artifacts', c.Agree artifacts' (m.writeStep i bytes).2 (d.writeStep i bytes).2 := by
  rcases h.sink_cases i with ⟨hm, hd⟩ | ⟨hm, hd⟩ | ⟨k, n, text, writer, hm, hd, hk, hplace, hholds⟩
  · simp only [Session.writeStep, hm, hd]
    exact ⟨trivial, artifacts, h⟩
  · simp only [Session.writeStep, hm, hd, Workspace.write]
    rw [← hm, ← hd, Function.update_eq_self, Function.update_eq_self]
    exact ⟨trivial, artifacts, h⟩
  · have hbuffers : m.store.buffers.modify k (· ++ bytes) =
        (artifacts.set k (n, text ++ bytes)).map (·.2) := by
      rw [h.buffers_eq, List.modify_eq_set_getElem?]
      simp [hk, List.map_set]
    have hgrows := BufferedFile.write_grows bytes writer d.files
    rw [hplace] at hgrows
    have hlt := (List.getElem?_eq_some_iff.1 hk).1
    have hreplace := h.replace hm hk hgrows
      (.artifact (List.getElem?_set_self hlt) ((BufferedFile.write_place ..).trans hplace)
        (hholds.write bytes)) (.inl rfl)
    simp only [Session.writeStep, hm, hd, Workspace.write, ArtifactStore.write,
      MemoryStore.write, hbuffers]
    exact ⟨trivial, _, hreplace⟩

/-- A file and a sink change, but not what was written to the artifact. -/
theorem replace_same (h : c.Agree artifacts m d) {i k : Nat} {text : Bytes}
    {files' : FileSystem} {a : Option (ArtifactSink Nat)} {b : Option (ArtifactSink BufferedFile)}
    (hsink : m.sinks i = some (.artifact k)) (hk : artifacts[k]? = some (n, text))
    (hgrows : Grows nowhere (· = c.place n) d.files files')
    (hpair : c.Pair artifacts files' a b)
    (ha : a = some (.artifact k) ∨ a = none ∧ files'.node? (c.place n) = some (.file text)) :
    c.Agree artifacts ⟨m.toWorkspace, m.requested, Function.update m.sinks i a⟩
      ⟨{ d.toWorkspace with files := files' }, d.requested, Function.update d.sinks i b⟩ := by
  have hsame : artifacts.set k (n, text) = artifacts := by
    obtain ⟨hlt, hget⟩ := List.getElem?_eq_some_iff.1 hk
    rw [← hget]
    exact List.set_getElem_self hlt
  have hreplace := h.replace hsink hk hgrows (hsame ▸ hpair) ha
  rw [hsame, ← h.buffers_eq] at hreplace
  exact hreplace

theorem flushStep (h : c.Agree artifacts m d) (i : Nat) :
    (m.flushStep i).1 = (d.flushStep i).1 ∧
      ∃ artifacts', c.Agree artifacts' (m.flushStep i).2 (d.flushStep i).2 := by
  rcases h.sink_cases i with ⟨hm, hd⟩ | ⟨hm, hd⟩ | ⟨k, n, text, writer, hm, hd, hk, hplace, hholds⟩
  · simp only [Session.flushStep, hm, hd]
    exact ⟨trivial, artifacts, h⟩
  · simp only [Session.flushStep, hm, hd, Workspace.flush]
    rw [← hm, ← hd, Function.update_eq_self, Function.update_eq_self]
    exact ⟨trivial, artifacts, h⟩
  · have hgrows := BufferedFile.flush_grows writer d.files
    rw [hplace] at hgrows
    have hreplace := h.replace_same hm hk hgrows
      (.artifact hk ((BufferedFile.flush_place ..).trans hplace) hholds.flush) (.inl rfl)
    simp only [Session.flushStep, hm, hd, Workspace.flush, ArtifactStore.flush]
    exact ⟨trivial, _, hreplace⟩

/-- A sink that drops what is written is closed. -/
theorem drop (h : c.Agree artifacts m d) {i : Nat} (hsink : m.sinks i = some .discard) :
    c.Agree artifacts ⟨m.toWorkspace, m.requested, Function.update m.sinks i none⟩
      ⟨d.toWorkspace, d.requested, Function.update d.sinks i none⟩ :=
  ⟨h.toSameArtifacts, h.toSameSinks.update_idle .none (by simp [hsink]) (by simp), h.requested,
    h.unused_update (h.lt_requested (by simp [hsink])) (Nat.le_refl _) none⟩

theorem closeStep (h : c.Agree artifacts m d) (i : Nat) :
    ∃ artifacts', c.Agree artifacts' (m.closeStep i) (d.closeStep i) := by
  rcases h.sink_cases i with ⟨hm, hd⟩ | ⟨hm, hd⟩ | ⟨k, n, text, writer, hm, hd, hk, hplace, hholds⟩
  · simp only [Session.closeStep, hm, hd]
    exact ⟨artifacts, h⟩
  · simp only [Session.closeStep, hm, hd, Workspace.close]
    exact ⟨artifacts, h.drop hm⟩
  · have hgrows := BufferedFile.flush_grows writer d.files
    have hnode := hholds.node?_flush
    rw [hplace] at hgrows hnode
    have hreplace := h.replace_same hm hk hgrows .none (.inr ⟨rfl, hnode⟩)
    simp only [Session.closeStep, hm, hd, Workspace.close, ArtifactStore.close]
    exact ⟨_, hreplace⟩

theorem takeCreated (h : c.Agree artifacts m d) :
    m.toWorkspace.takeCreated.1 = d.toWorkspace.takeCreated.1 ∧
      c.Agree artifacts { m with toWorkspace := m.toWorkspace.takeCreated.2 }
        { d with toWorkspace := d.toWorkspace.takeCreated.2 } := by
  obtain ⟨fresh, hmemory, hdirectory⟩ := h.stores
  simp only [Workspace.takeCreated, ArtifactStore.takeCreated, hmemory, hdirectory]
  exact ⟨trivial, ⟨h.mem, h.nodup, ⟨[], rfl, rfl⟩, h.grows, h.locate⟩, h.toSameSinks, h.requested,
    h.unused⟩

end Agree

end Comparison

end GrammarForge
