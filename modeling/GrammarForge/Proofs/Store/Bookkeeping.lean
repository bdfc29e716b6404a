import GrammarForge.Proofs.FileSystem.Errors
import GrammarForge.Proofs.Store.AgreeingStores
import GrammarForge.Proofs.Store.DirectoryFiles
import GrammarForge.Proofs.Store.Sessions

/-!
# The books of stores

A store takes down twice what it creates: in one list for good, and in another one until somebody
asks what was created. The two stay in step over any history of calls, whatever the calls meet in
the file system: what has been handed out and what is still to be handed out are together the names
that were created, each once and in order.
-/

namespace GrammarForge

/-! ## Books and what happens to them -/

/-- What a store takes down: the created names, and those that were not handed out yet. -/
structure Books where
  created : List String
  fresh : List String
deriving DecidableEq

/-- What a call to a store came to. -/
inductive StoreEvent where
  | created (name : String)
  /-- The store contains the name. -/
  | discarded (name : String)
  | failed (name : String) (error : SystemError)
  | handedOut (names : List String)
deriving DecidableEq

namespace StoreEvent

/-- The names that an event is the creation of. -/
def creations : StoreEvent → List String
  | created name => [name]
  | _ => []

/-- The names that are handed out with an event. -/
def handed : StoreEvent → List String
  | handedOut names => names
  | _ => []

end StoreEvent

/-- The names that were created, in order. -/
def createdIn (events : List StoreEvent) : List String := events.flatMap StoreEvent.creations

/-- The names that were handed out, in order. -/
def handedOutIn (events : List StoreEvent) : List String := events.flatMap StoreEvent.handed

theorem createdIn_cons (event : StoreEvent) (events : List StoreEvent) :
    createdIn (event :: events) = event.creations ++ createdIn events := List.flatMap_cons

theorem handedOutIn_cons (event : StoreEvent) (events : List StoreEvent) :
    handedOutIn (event :: events) = event.handed ++ handedOutIn events := List.flatMap_cons

theorem createdIn_append (events more : List StoreEvent) :
    createdIn (events ++ more) = createdIn events ++ createdIn more := List.flatMap_append

namespace Books

/-- How books are kept. A name is taken down when it is created, and then in both lists; what is
handed out is taken off one of them. Nothing else is taken down. -/
inductive Step : Books → StoreEvent → Books → Prop
  | create {b : Books} {name : String} (hnew : name ∉ b.created) :
      Step b (.created name) ⟨b.created ++ [name], b.fresh ++ [name]⟩
  | discard (b : Books) (name : String) : Step b (.discarded name) b
  | fail (b : Books) (name : String) (e : SystemError) : Step b (.failed name e) b
  | handOut (b : Books) : Step b (.handedOut b.fresh) ⟨b.created, []⟩

inductive Steps : Books → List StoreEvent → Books → Prop
  | done (b : Books) : Steps b [] b
  | step {b c d : Books} {event : StoreEvent} {events : List StoreEvent} :
      Step b event c → Steps c events d → Steps b (event :: events) d

variable {b c : Books} {event : StoreEvent} {events : List StoreEvent}

theorem Step.created_eq (h : Step b event c) : c.created = b.created ++ event.creations := by
  cases h with
  | create => rfl
  | discard => simp [StoreEvent.creations]
  | fail => simp [StoreEvent.creations]
  | handOut => simp [StoreEvent.creations]

theorem Step.handed_append_fresh (h : Step b event c) :
    event.handed ++ c.fresh = b.fresh ++ event.creations := by
  cases h with
  | create => rfl
  | discard => simp [StoreEvent.handed, StoreEvent.creations]
  | fail => simp [StoreEvent.handed, StoreEvent.creations]
  | handOut => simp [StoreEvent.handed, StoreEvent.creations]

theorem Step.nodup (h : Step b event c) (hb : b.created.Nodup) : c.created.Nodup := by
  cases h with
  | create hnew => exact List.nodup_append_comm.1 (by simpa using ⟨hnew, hb⟩)
  | discard => exact hb
  | fail => exact hb
  | handOut => exact hb

theorem Steps.created_eq (h : Steps b events c) : c.created = b.created ++ createdIn events := by
  induction h with
  | done b => simp [createdIn]
  | step hstep _ ih => rw [ih, hstep.created_eq, createdIn_cons, List.append_assoc]

/-- What is handed out and what is left come, together, from what was there and what was created. -/
theorem Steps.handedOut_append_fresh (h : Steps b events c) :
    handedOutIn events ++ c.fresh = b.fresh ++ createdIn events := by
  induction h with
  | done b => simp [handedOutIn, createdIn]
  | step hstep _ ih =>
      rw [handedOutIn_cons, createdIn_cons, List.append_assoc, ih, ← List.append_assoc,
        hstep.handed_append_fresh, List.append_assoc]

theorem Steps.nodup (h : Steps b events c) (hb : b.created.Nodup) : c.created.Nodup := by
  induction h with
  | done b => exact hb
  | step hstep _ ih => exact ih (hstep.nodup hb)

end Books

/-! ## Calls to stores -/

/-- A call to a store. What the store meets outside when something is to be created is the
circumstance of the call. -/
inductive StoreCall (α : Type) where
  | create (name : String) (circumstance : α)
  | takeCreated

/-- A way to have an artifact created in a store, under given circumstances. -/
abbrev Creation (α σ ω : Type) := String → α → σ → Except SystemError (ArtifactSink ω) × σ

section Calls

variable {α σ ω : Type} [ArtifactStore σ ω]

def StoreCall.perform (creation : Creation α σ ω) : StoreCall α → σ → StoreEvent × σ
  | .create name circumstance, s =>
    match creation name circumstance s with
    | (.ok (.artifact _), s) => (.created name, s)
    | (.ok .discard, s) => (.discarded name, s)
    | (.error e, s) => (.failed name e, s)
  | .takeCreated, s =>
    let (names, s) := ArtifactStore.takeCreated s
    (.handedOut names, s)

/-- What comes of calls, made one after the other, and the store after them. -/
def performAll (creation : Creation α σ ω) : List (StoreCall α) → σ → List StoreEvent × σ
  | [], s => ([], s)
  | call :: rest, s =>
    let (event, s) := call.perform creation s
    let (events, s) := performAll creation rest s
    (event :: events, s)

/-- How a store keeps books. What does not create anything leaves the store as it is, what creates
takes down a new name, and the store contains what it has taken down. -/
structure KeepsBooks (books : σ → Books) (creation : Creation α σ ω) : Prop where
  outcome : ∀ name circumstance s,
    creation name circumstance s = (.ok .discard, s) ∨
    (∃ e, creation name circumstance s = (.error e, s)) ∨
    ∃ writer t, creation name circumstance s = (.ok (.artifact writer), t) ∧
      name ∉ (books s).created ∧ books t = ⟨(books s).created ++ [name], (books s).fresh ++ [name]⟩
  handedOut : ∀ s, (ArtifactStore.takeCreated s).1 = (books s).fresh ∧
    books (ArtifactStore.takeCreated s).2 = ⟨(books s).created, []⟩
  known : ∀ s, ∀ name ∈ (books s).created, ∀ files,
    ArtifactStore.contains name ⟨s, files⟩ = true

variable {books : σ → Books} {creation : Creation α σ ω}

theorem performAll_append (calls more : List (StoreCall α)) (s : σ) :
    performAll creation (calls ++ more) s =
      ((performAll creation calls s).1 ++
        (performAll creation more (performAll creation calls s).2).1,
      (performAll creation more (performAll creation calls s).2).2) := by
  induction calls generalizing s with
  | nil => rfl
  | cons call rest ih => simp [performAll, ih]

namespace KeepsBooks

/-- What a call does to the books. -/
theorem step (h : KeepsBooks books creation) (call : StoreCall α) (s : σ) :
    Books.Step (books s) (call.perform creation s).1 (books (call.perform creation s).2) := by
  cases call with
  | create name circumstance =>
      simp only [StoreCall.perform]
      rcases h.outcome name circumstance s with hdiscard | ⟨e, hfail⟩ |
        ⟨writer, t, hcreate, hnew, hbooks⟩
      · rw [hdiscard]
        exact .discard _ name
      · rw [hfail]
        exact .fail _ name e
      · rw [hcreate]
        simp only [hbooks]
        exact .create hnew
  | takeCreated =>
      obtain ⟨hnames, hbooks⟩ := h.handedOut s
      simp only [StoreCall.perform, hnames, hbooks]
      exact .handOut _

theorem unchanged_of_error (h : KeepsBooks books creation) {name : String} {circumstance : α}
    {s : σ} {e : SystemError} (herror : (creation name circumstance s).1 = .error e) :
    (creation name circumstance s).2 = s := by
  rcases h.outcome name circumstance s with hdiscard | ⟨e', hfail⟩ | ⟨writer, t, hcreate, -⟩
  · rw [hdiscard]
  · rw [hfail]
  · rw [hcreate] at herror
    cases herror

/-- What calls do to the books. -/
theorem steps (h : KeepsBooks books creation) (calls : List (StoreCall α)) (s : σ) :
    Books.Steps (books s) (performAll creation calls s).1
      (books (performAll creation calls s).2) := by
  induction calls generalizing s with
  | nil => exact .done _
  | cons call rest ih => exact .step (h.step call s) (ih _)

end KeepsBooks

/-- What can be told of a store from its calls, beginning with the store `s`. -/
structure StaysInStep (books : σ → Books) (creation : Creation α σ ω) (s : σ) : Prop where
  /-- What was handed out and what is fresh are the created names in order. -/
  inOrder : ∀ calls, let run := performAll creation calls s
    handedOutIn run.1 ++ (books run.2).fresh = createdIn run.1
  created : ∀ calls, let run := performAll creation calls s
    (books run.2).created = createdIn run.1
  once : ∀ calls, (createdIn (performAll creation calls s).1).Nodup
  /-- A created name is known from then on, and it is never created again. -/
  forever : ∀ calls more, let run := performAll creation calls s
    let later := performAll creation more run.2
    ∀ name ∈ createdIn run.1, name ∉ createdIn later.1 ∧
      ∀ files, ArtifactStore.contains name ⟨later.2, files⟩ = true
  /-- A failure leaves all as it is. -/
  failed : ∀ calls, let run := performAll creation calls s
    ∀ name circumstance e, (creation name circumstance run.2).1 = .error e →
      (creation name circumstance run.2).2 = run.2

/-- A store that keeps books and begins with empty ones stays in step. -/
theorem KeepsBooks.staysInStep (h : KeepsBooks books creation) {s : σ}
    (hs : books s = ⟨[], []⟩) : StaysInStep books creation s := by
  have hcreated (calls : List (StoreCall α)) :
      (books (performAll creation calls s).2).created =
        createdIn (performAll creation calls s).1 := by
    simpa [hs] using (h.steps calls s).created_eq
  have honce (calls : List (StoreCall α)) :
      (createdIn (performAll creation calls s).1).Nodup := by
    rw [← hcreated]
    exact (h.steps calls s).nodup (by simp [hs])
  refine ⟨fun calls => ?_, hcreated, honce, fun calls more => ?_, fun calls => ?_⟩
  · simpa [hs] using (h.steps calls s).handedOut_append_fresh
  · have hall := honce (calls ++ more)
    rw [performAll_append, createdIn_append] at hall
    intro run later name hname
    refine ⟨fun hagain => List.disjoint_of_nodup_append hall hname hagain, fun files => ?_⟩
    have hbooks := (h.steps more run.2).created_eq
    apply h.known
    rw [hbooks, hcreated]
    exact List.mem_append_left _ hname
  · intro run name circumstance e herror
    exact h.unchanged_of_error herror

end Calls

/-! ## Stores in memory -/

namespace MemoryStore

def books (s : MemoryStore) : Books := ⟨s.createdNames, s.fresh⟩

/-- Have an artifact created by a request. The store has no use for the file system. -/
def requestIn : Creation FileSystem MemoryStore Nat := fun name files s =>
  let (result, w) := (⟨s, files⟩ : Workspace MemoryStore).request name
  (result, w.store)

theorem requestIn_eq (name : String) (files : FileSystem) (s : MemoryStore) :
    requestIn name files s =
      if s.contains name then (.ok .discard, s)
      else ((s.create name).1.map .artifact, (s.create name).2) := by
  by_cases h : s.contains name = true
  · simp [requestIn, Workspace.request, Workspace.decisionFor, ArtifactStore.contains, h]
  · simp [requestIn, Workspace.request, Workspace.decisionFor, ArtifactStore.contains,
      ArtifactStore.create, h]

/-- A store contains what it has created. -/
theorem contains_of_mem_createdNames {s : MemoryStore} {name : String}
    (h : name ∈ s.createdNames) : s.contains name = true := by
  by_contra hcontains
  have hlookup : s.created.lookup name = none := by
    have hcreated := (Bool.or_eq_false_iff.1 (Bool.eq_false_iff.2 hcontains)).2
    simpa using hcreated
  obtain ⟨entry, hentry, rfl⟩ := List.mem_map.1 h
  simpa using List.lookup_eq_none_iff.1 hlookup entry hentry

/-- A name that is contained is not created, one that is refused fails, and any other is created. -/
theorem keepsBooks : KeepsBooks books requestIn where
  outcome name files s := by
    rw [requestIn_eq]
    split_ifs with hcontains
    · exact .inl rfl
    · right
      have hnew : name ∉ s.createdNames := fun h => hcontains (contains_of_mem_createdNames h)
      unfold create
      split_ifs with hrefused
      · exact .inl ⟨_, rfl⟩
      · have hassign : assign name s.buffers.length s.created =
            s.created ++ [(name, s.buffers.length)] :=
          assign_of_lookup_none (lookup_eq_none_of_notMem hnew)
        exact .inr ⟨_, _, rfl, hnew, by simp [books, createdNames, hassign]⟩
  handedOut s := ⟨rfl, rfl⟩
  known s name h files := contains_of_mem_createdNames h

end MemoryStore

/-! ## Stores in directories -/

/-- An attempt to make the file at a path, whatever comes of it. -/
abbrev FileMaker := String → FileSystem → Except SystemError Location × FileSystem

namespace DirectoryStore

def books (s : DirectoryStore) : Books := ⟨s.created, s.fresh⟩

/-- The error of a store that is to create what it has created. -/
def alreadyCreated (name : String) : SystemError :=
  ⟨.alreadyExists, s!"artifact {name} was already created"⟩

/-- Create an artifact with a file that is made by `make`. -/
def createWith (make : FileMaker) (name : String) (w : Workspace DirectoryStore) :
    Except SystemError BufferedFile × Workspace DirectoryStore :=
  if w.store.created.contains name then (.error (alreadyCreated name), w)
  else
    match w.store.pathOf name with
    | .error e => (.error e, w)
    | .ok path =>
      match make path w.files with
      | (.error e, files) => (.error e, { w with files })
      | (.ok place, files) => (.ok (.new place), ⟨w.store.record name, files⟩)

/-- Request an artifact, for which a file is made by `make`. -/
def requestWith (make : FileMaker) (name : String) (w : Workspace DirectoryStore) :
    Except SystemError (ArtifactSink BufferedFile) × Workspace DirectoryStore :=
  match w.decisionFor name with
  | .discard => (.ok .discard, w)
  | .write =>
    let (result, w) := createWith make name w
    (result.map .artifact, w)

/-- The way in which the file system makes files. -/
def systemMaker : FileMaker := fun path files => files.createFileAndParents path

theorem createWith_systemMaker (name : String) (w : Workspace DirectoryStore) :
    createWith systemMaker name w = ArtifactStore.create name w := by
  simp only [ArtifactStore.create, createFile, createWith, systemMaker, alreadyCreated]
  split
  · rfl
  · cases w.store.pathOf name with
    | error e => rfl
    | ok path =>
        simp only
        cases w.files.createFileAndParents path with
        | mk result files => cases result <;> rfl

theorem requestWith_systemMaker (name : String) (w : Workspace DirectoryStore) :
    requestWith systemMaker name w = w.request name := by
  cases hdecision : w.decisionFor name with
  | discard => simp only [requestWith, Workspace.request, hdecision]
  | write => simp only [requestWith, Workspace.request, hdecision, createWith_systemMaker]

/-- What a call meets: a file system in any state, and what comes of making a file in it. -/
abbrev Surroundings := FileMaker × FileSystem

/-- Have an artifact created without asking before whether there is one. -/
def createIn : Creation Surroundings DirectoryStore BufferedFile := fun name around s =>
  let (result, w) := createWith around.1 name ⟨s, around.2⟩
  (result.map .artifact, w.store)

/-- Have an artifact created by a request. -/
def requestIn : Creation Surroundings DirectoryStore BufferedFile := fun name around s =>
  let (result, w) := requestWith around.1 name ⟨s, around.2⟩
  (result, w.store)

variable {make : FileMaker} {name : String} {w : Workspace DirectoryStore}

theorem createWith_of_mem (h : name ∈ w.store.created) :
    createWith make name w = (.error (alreadyCreated name), w) :=
  if_pos (by simpa using h)

/-- What creating comes to. What is there is not created again; there may be no file for the name,
or it cannot be made; otherwise the name is taken down. -/
theorem createWith_cases (make : FileMaker) (name : String) (w : Workspace DirectoryStore) :
    (name ∈ w.store.created ∧ createWith make name w = (.error (alreadyCreated name), w)) ∨
    (name ∉ w.store.created ∧ ∃ e, w.store.pathOf name = .error e ∧
      createWith make name w = (.error e, w)) ∨
    ∃ path, name ∉ w.store.created ∧ w.store.pathOf name = .ok path ∧
      ((∃ e files, make path w.files = (.error e, files) ∧
        createWith make name w = (.error e, { w with files })) ∨
      ∃ place files, make path w.files = (.ok place, files) ∧
        createWith make name w = (.ok (.new place), ⟨w.store.record name, files⟩)) := by
  by_cases hmem : name ∈ w.store.created
  · exact .inl ⟨hmem, createWith_of_mem hmem⟩
  · right
    have hnew : ¬ w.store.created.contains name = true := by simpa using hmem
    rw [createWith, if_neg hnew]
    cases hpath : w.store.pathOf name with
    | error e => exact .inl ⟨hmem, e, rfl, rfl⟩
    | ok path =>
        refine .inr ⟨path, hmem, rfl, ?_⟩
        simp only
        cases hmake : make path w.files with
        | mk result files =>
            cases result with
            | error e => exact .inl ⟨e, files, rfl, rfl⟩
            | ok place => exact .inr ⟨place, files, rfl, rfl⟩

/-- Creating does something to a store only if it takes down a name that is new. -/
theorem createWith_result (make : FileMaker) (name : String) (w : Workspace DirectoryStore) :
    (∃ e, (createWith make name w).1 = .error e ∧ (createWith make name w).2.store = w.store) ∨
    ∃ writer, (createWith make name w).1 = .ok writer ∧ name ∉ w.store.created ∧
      (createWith make name w).2.store = w.store.record name := by
  rcases createWith_cases make name w with ⟨-, hcase⟩ | ⟨-, e, -, hcase⟩ |
    ⟨path, hnew, -, ⟨e, files, -, hcase⟩ | ⟨place, files, -, hcase⟩⟩
  · exact .inl ⟨_, by rw [hcase], by rw [hcase]⟩
  · exact .inl ⟨e, by rw [hcase], by rw [hcase]⟩
  · exact .inl ⟨e, by rw [hcase], by rw [hcase]⟩
  · exact .inr ⟨.new place, by rw [hcase], hnew, by rw [hcase]⟩

theorem known_of_mem {s : DirectoryStore} (h : name ∈ s.created) (files : FileSystem) :
    ArtifactStore.contains name (⟨s, files⟩ : Workspace DirectoryStore) = true := by
  simp [ArtifactStore.contains, contains, h]

theorem createIn_keepsBooks : KeepsBooks books createIn where
  outcome name around s := by
    right
    rcases createWith_result around.1 name ⟨s, around.2⟩ with ⟨e, hresult, hstore⟩ |
      ⟨writer, hresult, hnew, hstore⟩
    · exact .inl ⟨e, by simp only [createIn, hresult, hstore]; rfl⟩
    · exact .inr ⟨writer, s.record name, by simp only [createIn, hresult, hstore]; rfl, hnew, rfl⟩
  handedOut s := ⟨rfl, rfl⟩
  known s name h files := known_of_mem h files

theorem requestWith_eq (make : FileMaker) (name : String) (w : Workspace DirectoryStore) :
    requestWith make name w =
      if ArtifactStore.contains name w then (.ok .discard, w)
      else ((createWith make name w).1.map .artifact, (createWith make name w).2) := by
  by_cases h : ArtifactStore.contains name w = true
  · simp [requestWith, Workspace.decisionFor, h]
  · simp [requestWith, Workspace.decisionFor, h]

theorem requestIn_eq (name : String) (around : Surroundings) (s : DirectoryStore) :
    requestIn name around s =
      if ArtifactStore.contains name (⟨s, around.2⟩ : Workspace DirectoryStore) then
        (.ok .discard, s)
      else createIn name around s := by
  simp only [requestIn, requestWith_eq, createIn]
  split_ifs <;> rfl

/-- Whether a store asks before it creates makes no difference to its books. -/
theorem requestIn_keepsBooks : KeepsBooks books requestIn where
  outcome name around s := by
    rw [requestIn_eq]
    split_ifs
    · exact .inl rfl
    · exact createIn_keepsBooks.outcome name around s
  handedOut := createIn_keepsBooks.handedOut
  known := createIn_keepsBooks.known

/-- A request fails only where there is no file for the name, or where it cannot be made. -/
theorem requestWith_eq_error {e : SystemError} (h : (requestWith make name w).1 = .error e) :
    name ∉ w.store.created ∧ (w.store.pathOf name = .error e ∨
      ∃ path, w.store.pathOf name = .ok path ∧ (make path w.files).1 = .error e) := by
  rw [requestWith_eq] at h
  split_ifs at h with hcontains
  rcases createWith_cases make name w with ⟨hmem, -⟩ | ⟨hnew, e', hpath, hcase⟩ |
    ⟨path, hnew, hpath, ⟨e', files, hmake, hcase⟩ | ⟨place, files, -, hcase⟩⟩
  · exact absurd (known_of_mem hmem w.files) hcontains
  · rw [hcase] at h
    cases h
    exact ⟨hnew, .inl hpath⟩
  · rw [hcase] at h
    cases h
    exact ⟨hnew, .inr ⟨path, hpath, by rw [hmake]⟩⟩
  · rw [hcase] at h
    cases h

/-- The error about a name that was created has a text of its own. -/
theorem alreadyCreated_notMem_ofFiles (name : String) :
    alreadyCreated name ∉ SystemError.ofFiles := by
  have hhead : (alreadyCreated name).message.toList.head? = some 'a' := by
    change ("artifact " ++ name ++ " was already created").toList.head? = some 'a'
    simp
  have hall : ∀ e ∈ SystemError.ofFiles,
      e.kind = .alreadyExists → e.message.toList.head? ≠ some 'a' := by decide
  exact fun hmem => hall _ hmem rfl hhead

theorem pathOf_ne_alreadyCreated (s : DirectoryStore) (name other : String) :
    s.pathOf name ≠ .error (alreadyCreated other) := by
  rw [pathOf, relativePath]
  cases LogicalName.parse name with
  | ok n => simp [Except.map]
  | error e => simp [Except.map, alreadyCreated]

/-- A request never fails because a name was created before. -/
theorem request_ne_alreadyCreated (name other : String) (w : Workspace DirectoryStore) :
    (w.request name).1 ≠ .error (alreadyCreated other) := by
  intro h
  rw [← requestWith_systemMaker] at h
  obtain ⟨-, hpath | ⟨path, -, hmake⟩⟩ := requestWith_eq_error h
  · exact w.store.pathOf_ne_alreadyCreated name other hpath
  · exact alreadyCreated_notMem_ofFiles other
      (w.files.failsPlainly_createFileAndParents path _ hmake)

end DirectoryStore

/-! ## Both kinds of stores -/

/-- The books of a store in a directory stay in step, whether names are created or requested and
whatever becomes of files, and so do those of a store in memory in which names are requested. What
makes files need not be the file system; where it is, creating and requesting are what they are for
every store. A name that was created is refused when it is created again. When it is requested it is
not, so that all errors are about the name or its file. -/
theorem books_stay_in_step :
    (∀ (outDirectory : String) (sourceRoots : List String),
      StaysInStep DirectoryStore.books DirectoryStore.createIn (.new outDirectory sourceRoots) ∧
      StaysInStep DirectoryStore.books DirectoryStore.requestIn (.new outDirectory sourceRoots)) ∧
    (∀ known refused : List String,
      StaysInStep MemoryStore.books MemoryStore.requestIn (.new known refused)) ∧
    (∀ (name : String) (w : Workspace DirectoryStore),
      DirectoryStore.createWith DirectoryStore.systemMaker name w = ArtifactStore.create name w ∧
      DirectoryStore.requestWith DirectoryStore.systemMaker name w = w.request name) ∧
    (∀ (make : FileMaker) (name : String) (w : Workspace DirectoryStore),
      (name ∈ w.store.created →
        DirectoryStore.createWith make name w = (.error (DirectoryStore.alreadyCreated name), w)) ∧
      ∀ e, (DirectoryStore.requestWith make name w).1 = .error e → name ∉ w.store.created ∧
        (w.store.pathOf name = .error e ∨
          ∃ path, w.store.pathOf name = .ok path ∧ (make path w.files).1 = .error e)) ∧
    ∀ (name other : String) (w : Workspace DirectoryStore),
      (w.request name).1 ≠ .error (DirectoryStore.alreadyCreated other) := by
  refine ⟨fun _ _ => ⟨?_, ?_⟩, fun _ _ => ?_, fun name w => ⟨?_, ?_⟩, fun _ _ _ => ⟨?_, ?_⟩,
    DirectoryStore.request_ne_alreadyCreated⟩
  · exact DirectoryStore.createIn_keepsBooks.staysInStep rfl
  · exact DirectoryStore.requestIn_keepsBooks.staysInStep rfl
  · exact MemoryStore.keepsBooks.staysInStep rfl
  · exact DirectoryStore.createWith_systemMaker name w
  · exact DirectoryStore.requestWith_systemMaker name w
  · exact DirectoryStore.createWith_of_mem
  · exact fun _ => DirectoryStore.requestWith_eq_error

/-- Calls by which two artifacts are created. The storage is full when the first one is to be
created for the first time. -/
def retriedCalls : List (StoreCall DirectoryStore.Surroundings) :=
  let none := FileSystem.empty
  let full : FileMaker := fun _ files => (.error .storageFull, files)
  let system := DirectoryStore.systemMaker
  [.create "demo::P" (full, none), .takeCreated, .create "demo::P" (system, none), .takeCreated,
    .create "demo::P" (system, none), .create "Types" (system, none)]

/-- A name whose file cannot be made at first is handed out once. -/
theorem retried_name_is_handed_out_once :
    let run := performAll DirectoryStore.createIn retriedCalls (.new "gen" [])
    run.1 = [.failed "demo::P" .storageFull, .handedOut [], .created "demo::P",
      .handedOut ["demo::P"], .failed "demo::P" (DirectoryStore.alreadyCreated "demo::P"),
      .created "Types"] ∧
    handedOutIn run.1 ++ (DirectoryStore.books run.2).fresh = ["demo::P", "Types"] ∧
    ∀ more, "demo::P" ∉ createdIn (performAll DirectoryStore.createIn more run.2).1 := by
  have hstep := (books_stay_in_step.1 "gen" []).1
  have hevents : (performAll DirectoryStore.createIn retriedCalls (.new "gen" [])).1 =
      [.failed "demo::P" .storageFull, .handedOut [], .created "demo::P",
        .handedOut ["demo::P"], .failed "demo::P" (DirectoryStore.alreadyCreated "demo::P"),
        .created "Types"] := by decide +kernel
  have horder := hstep.inOrder retriedCalls
  have hforever := hstep.forever retriedCalls
  simp only [hevents] at horder hforever
  refine ⟨hevents, ?_, fun more => (hforever more "demo::P" (by decide)).1⟩
  simp only [hevents]
  exact horder

end GrammarForge
