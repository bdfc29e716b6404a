import GrammarForge.Proofs.FileSystem.Places

/-!
# What becomes of a file system

Nothing is removed when files and directories are made: a file system grows. What changes is said by
the places at which directories are made and those at which files are written.
-/

namespace GrammarForge

open GrammarForge.Path

namespace FileSystem

variable {fs : FileSystem} {place : Location} {node : Node} {path : String}

/-! ## Nodes -/

theorem lookup_setNode (place q : Location) (node : Node) (nodes : List (Location × Node)) :
    (setNode place node nodes).lookup q = if q = place then some node else nodes.lookup q := by
  induction nodes with
  | nil =>
      by_cases hq : q = place
      · simp [setNode, hq]
      · have hbeq : (q == place) = false := by simpa using hq
        simp [setNode, List.lookup_cons, hq, hbeq]
  | cons entry rest ih =>
      obtain ⟨p, n⟩ := entry
      rw [setNode]
      by_cases hp : p = place
      · subst hp
        by_cases hq : q = p
        · simp [hq]
        · have hbeq : (q == p) = false := by simpa using hq
          simp [List.lookup_cons, hq, hbeq]
      · rw [if_neg hp, List.lookup_cons, List.lookup_cons, ih]
        by_cases hq : q = p
        · simp [hq, hp]
        · have hbeq : (q == p) = false := by simpa using hq
          simp [hbeq]

@[simp] theorem current_set : (fs.set place node).current = fs.current := by
  unfold set
  split <;> rfl

theorem node?_set (h : place ≠ []) (q : Location) :
    (fs.set place node).node? q = if q = place then some node else fs.node? q := by
  by_cases hq : q = []
  · have hne : q ≠ place := fun heq => h (heq ▸ hq)
    rw [if_neg hne]
    simp [node?, hq]
  · simp only [node?, set, if_neg hq, dif_neg h, lookup_setNode]

/-- Whether there is a file at a place. -/
def IsFile (fs : FileSystem) (place : Location) : Prop :=
  ∃ content, fs.node? place = some (.file content)

theorem isDirectory_iff : fs.isDirectory place = true ↔ fs.node? place = some .directory := by
  simp [isDirectory]

theorem IsFile.not_directory (h : fs.IsFile place) : fs.node? place ≠ some .directory := by
  obtain ⟨content, hcontent⟩ := h
  simp [hcontent]

theorem isFileAt_iff : fs.isFileAt path = true ↔ ∃ place, fs.locate path = .ok place ∧
    fs.IsFile place := by
  unfold isFileAt
  cases hlocate : fs.locate path with
  | error e => simp
  | ok place =>
      simp only [Except.ok.injEq, exists_eq_left', IsFile]
      split
      · rename_i content hnode
        simp [hnode]
      · rename_i hother
        simp only [Bool.false_eq_true, false_iff, not_exists]
        exact hother

/-! ## Growth -/

/-- The file system `before` becomes `after` by directories that are made at places `made` and files
that are made or written at places `written`. -/
structure Grows (made written : Location → Prop) (before after : FileSystem) : Prop where
  current : after.current = before.current
  nodes : ∀ place, after.node? place = before.node? place ∨
    (made place ∧ before.node? place = none ∧ after.node? place = some .directory) ∨
    (written place ∧ before.node? place ≠ some .directory ∧ after.IsFile place)

/-- No place. -/
def nowhere (_ : Location) : Prop := False

namespace Grows

variable {made written made' written' : Location → Prop} {before middle after : FileSystem}

theorem refl (fs : FileSystem) : Grows made written fs fs := ⟨rfl, fun _ => .inl rfl⟩

theorem trans (h : Grows made written before middle) (h' : Grows made written middle after) :
    Grows made written before after := by
  refine ⟨h'.current.trans h.current, fun place => ?_⟩
  rcases h'.nodes place with hsame | ⟨hmade, hnone, hdirectory⟩ | ⟨hwritten, hother, hfile⟩
  · rcases h.nodes place with hfirst | ⟨hmade, hnone, hdirectory⟩ | ⟨hwritten, hother, hfile⟩
    · exact .inl (hsame.trans hfirst)
    · exact .inr (.inl ⟨hmade, hnone, hsame.trans hdirectory⟩)
    · obtain ⟨content, hcontent⟩ := hfile
      exact .inr (.inr ⟨hwritten, hother, content, hsame.trans hcontent⟩)
  · rcases h.nodes place with hfirst | ⟨-, -, hfirst⟩ | ⟨-, -, content, hfirst⟩
    · exact .inr (.inl ⟨hmade, hfirst ▸ hnone, hdirectory⟩)
    · rw [hfirst] at hnone
      cases hnone
    · rw [hfirst] at hnone
      cases hnone
  · rcases h.nodes place with hfirst | ⟨-, -, hfirst⟩ | ⟨-, hbefore, -⟩
    · exact .inr (.inr ⟨hwritten, hfirst ▸ hother, hfile⟩)
    · exact absurd hfirst hother
    · exact .inr (.inr ⟨hwritten, hbefore, hfile⟩)

theorem mono (h : Grows made written before after) (hmade : ∀ place, made place → made' place)
    (hwritten : ∀ place, written place → written' place) :
    Grows made' written' before after := by
  refine ⟨h.current, fun place => ?_⟩
  rcases h.nodes place with hsame | ⟨hplace, hrest⟩ | ⟨hplace, hrest⟩
  · exact .inl hsame
  · exact .inr (.inl ⟨hmade place hplace, hrest⟩)
  · exact .inr (.inr ⟨hwritten place hplace, hrest⟩)

/-- A file that is not written stays as it is. -/
theorem file_eq (h : Grows made written before after) {place : Location} {content : Bytes}
    (hfile : before.node? place = some (.file content)) (hwritten : ¬ written place) :
    after.node? place = some (.file content) := by
  rcases h.nodes place with hsame | ⟨-, hnone, -⟩ | ⟨hplace, -⟩
  · rw [hsame, hfile]
  · rw [hfile] at hnone
    cases hnone
  · exact absurd hplace hwritten

/-- There are no files but those that were there and those that are written. -/
theorem isFile_cases (h : Grows made written before after) {place : Location}
    (hfile : after.IsFile place) : before.IsFile place ∨ written place := by
  rcases h.nodes place with hsame | ⟨-, -, hdirectory⟩ | ⟨hplace, -⟩
  · obtain ⟨content, hcontent⟩ := hfile
    exact .inl ⟨content, hsame ▸ hcontent⟩
  · exact absurd hdirectory hfile.not_directory
  · exact .inr hplace

theorem directory (h : Grows made written before after) {place : Location}
    (hdirectory : before.isDirectory place = true) : after.isDirectory place = true := by
  rw [isDirectory_iff] at hdirectory ⊢
  rcases h.nodes place with hsame | ⟨-, hnone, -⟩ | ⟨-, hother, -⟩
  · rw [hsame, hdirectory]
  · rw [hdirectory] at hnone
    cases hnone
  · exact absurd hdirectory hother

theorem isSome (h : Grows made written before after) {place : Location}
    (hsome : (before.node? place).isSome = true) : (after.node? place).isSome = true := by
  rcases h.nodes place with hsame | ⟨-, hnone, -⟩ | ⟨-, -, content, hfile⟩
  · rw [hsame, hsome]
  · rw [hnone] at hsome
    cases hsome
  · rw [hfile]
    rfl

theorem enter (h : Grows made written before after) {place next : Location} {part : String}
    (hstep : before.enter place part = .ok next) : after.enter place part = .ok next := by
  unfold FileSystem.enter at hstep ⊢
  split at hstep
  · cases hstep
  · rename_i hdirectory
    rw [if_neg (by simpa using h.directory (by simpa using hdirectory))]
    split at hstep
    · rw [if_pos ‹_›]
      exact hstep
    · rw [if_neg ‹_›]
      split at hstep
      · rw [if_pos ‹_›]
        exact hstep
      · rw [if_neg ‹_›]
        split at hstep
        · cases hstep
        · rw [if_neg ‹_›]
          split at hstep
          · rw [if_pos (h.isSome ‹_›)]
            exact hstep
          · cases hstep

/-- A path that leads somewhere goes on leading there. -/
theorem leads (h : Grows made written before after) {place next : Location} {parts : List String}
    (hleads : before.Leads place parts next) : after.Leads place parts next := by
  induction parts generalizing place with
  | nil => exact leads_nil.2 (leads_nil.1 hleads)
  | cons part rest ih =>
      obtain ⟨middle, hstep, hrest⟩ := leads_cons.1 hleads
      exact leads_cons.2 ⟨middle, h.enter hstep, ih hrest⟩

theorem locate (h : Grows made written before after) {path : String} {place : Location}
    (hlocate : before.locate path = .ok place) : after.locate path = .ok place := by
  obtain ⟨hcheck, hleads⟩ := locate_eq_ok.1 hlocate
  rw [locate_eq_ok, start_congr h.current]
  exact ⟨hcheck, h.leads hleads⟩

theorem of_set_directory (hne : place ≠ []) (hnone : fs.node? place = none) :
    Grows (· = place) nowhere fs (fs.set place .directory) := by
  refine ⟨current_set, fun q => ?_⟩
  rw [node?_set hne]
  by_cases hq : q = place
  · exact .inr (.inl ⟨hq, hq ▸ hnone, if_pos hq⟩)
  · exact .inl (if_neg hq)

theorem of_set_file (hne : place ≠ []) (hother : fs.isDirectory place = false) (content : Bytes) :
    Grows nowhere (· = place) fs (fs.set place (.file content)) := by
  refine ⟨current_set, fun q => ?_⟩
  rw [node?_set hne]
  by_cases hq : q = place
  · subst hq
    refine .inr (.inr ⟨rfl, ?_, content, ?_⟩)
    · intro hdirectory
      rw [isDirectory_iff.2 hdirectory] at hother
      cases hother
    · rw [node?_set hne, if_pos rfl]
  · exact .inl (if_neg hq)

end Grows

/-! ## Making directories -/

/-- A new entry is looked up in a directory, to which the parts before lead. Nothing but slashes may
follow. -/
theorem locateNew_eq_ok {last : String} (h : fs.locateNew path = .ok (place, some last)) :
    checkPath path = .ok () ∧ fs.isDirectory place = true ∧ ∃ before blanks,
      Path.parts path = before ++ last :: blanks ∧ last ≠ "" ∧ (∀ blank ∈ blanks, blank = "") ∧
        fs.Leads (fs.start path) before place := by
  unfold locateNew at h
  obtain ⟨⟨⟩, hcheck, h⟩ := bind_eq_ok.1 h
  refine ⟨hcheck, ?_⟩
  have hparts := List.takeWhile_append_dropWhile (p := (· = "")) (l := (Path.parts path).reverse)
  cases hdrop : (Path.parts path).reverse.dropWhile (· = "") with
  | nil =>
      rw [hdrop] at h
      cases h
  | cons found before =>
      rw [hdrop] at h hparts
      obtain ⟨directory, hleads, h⟩ := bind_eq_ok.1 h
      split at h
      · rename_i hdirectory
        cases h
        refine ⟨hdirectory, before.reverse,
          ((Path.parts path).reverse.takeWhile (· = "")).reverse, ?_, ?_, ?_, hleads⟩
        · have hreverse := congrArg List.reverse hparts
          simpa using hreverse.symm
        · intro hempty
          have hhead := List.head?_dropWhile_not (p := (· = "")) (l := (Path.parts path).reverse)
          simp [hdrop, hempty] at hhead
        · intro blank hblank
          have hall := List.mem_takeWhile_imp (List.mem_reverse.1 hblank)
          simpa using hall
      · cases h

theorem foldl_follow_blanks {blanks : List String} (place : Location)
    (h : ∀ blank ∈ blanks, blank = "") : blanks.foldl follow place = place := by
  induction blanks generalizing place with
  | nil => rfl
  | cons blank rest ih =>
      obtain ⟨rfl, hrest⟩ := List.forall_mem_cons.1 h
      rw [List.foldl_cons, follow_empty, ih _ hrest]

/-- The place of a new entry, if its name does not lead elsewhere. -/
theorem placeOf_of_locateNew {last : String} (h : fs.locateNew path = .ok (place, some last))
    (hdot : last ≠ ".") (hdots : last ≠ "..") : fs.placeOf path = place ++ [last] := by
  obtain ⟨-, -, before, blanks, hparts, hne, hblanks, hleads⟩ := locateNew_eq_ok h
  have hcomponent : isComponent last = true := by simp [isComponent, hne, hdot]
  rw [placeOf, hparts, List.foldl_append, ← hleads.eq_foldl, List.foldl_cons,
    foldl_follow_blanks _ hblanks, follow, if_neg (by simp [hcomponent]), if_neg hdots]

theorem makeDirectory_grows {fs' : FileSystem} (h : fs.makeDirectory path = .ok fs') :
    Grows (· = fs.placeOf path) nowhere fs fs' := by
  unfold makeDirectory at h
  obtain ⟨⟨place, last?⟩, hnew, h⟩ := bind_eq_ok.1 h
  cases last? with
  | none => cases h
  | some last =>
      simp only at h
      split at h
      · cases h
      · rename_i hname
        split at h
        · cases h
        · split at h
          · cases h
          · rename_i hnone
            obtain ⟨hdot, hdots⟩ : last ≠ "." ∧ last ≠ ".." := by simpa using hname
            cases h
            rw [placeOf_of_locateNew hnew hdot hdots]
            exact Grows.of_set_directory (by simp) (by simpa using hnone)

theorem makeDirectoryIfMissing_grows {fs' : FileSystem}
    (h : fs.makeDirectoryIfMissing path = .ok fs') :
    Grows (· = fs.placeOf path) nowhere fs fs' := by
  unfold makeDirectoryIfMissing at h
  cases hmake : fs.makeDirectory path with
  | ok made =>
      rw [hmake] at h
      cases h
      exact makeDirectory_grows hmake
  | error e =>
      rw [hmake] at h
      simp only at h
      split at h
      · cases h
        exact Grows.refl _
      · cases h

/-- The places of directories. -/
def placesOf (fs : FileSystem) (paths : List String) (place : Location) : Prop :=
  ∃ path ∈ paths, place = fs.placeOf path

theorem makeAncestors_grows (fs : FileSystem) (paths : List String) :
    Grows (fs.placesOf paths) nowhere fs (fs.makeAncestors paths).2 := by
  induction paths with
  | nil => exact Grows.refl fs
  | cons path outer ih =>
      have hmade : ∀ {start fs' : FileSystem}, start.current = fs.current →
          start.makeDirectoryIfMissing path = .ok fs' →
          Grows (fs.placesOf (path :: outer)) nowhere start fs' := by
        intro start fs' hcurrent hmake
        apply (makeDirectoryIfMissing_grows hmake).mono
        · rintro _ rfl
          exact ⟨path, List.mem_cons_self, placeOf_congr hcurrent path⟩
        · exact fun _ => id
      have houter : Grows (fs.placesOf (path :: outer)) nowhere fs (fs.makeAncestors outer).2 :=
        ih.mono (fun _ ⟨p, hp, hplace⟩ => ⟨p, List.mem_cons_of_mem _ hp, hplace⟩) fun _ => id
      rw [makeAncestors]
      cases hfirst : fs.makeDirectoryIfMissing path with
      | ok fs' => exact hmade rfl hfirst
      | error e =>
          simp only
          split
          · cases hothers : fs.makeAncestors outer with
            | mk result fs' =>
                rw [hothers] at houter
                cases result with
                | error e => exact houter
                | ok =>
                    simp only
                    cases hagain : fs'.makeDirectoryIfMissing path with
                    | error e => exact houter
                    | ok fs'' => exact houter.trans (hmade houter.current hagain)
          · exact Grows.refl fs

/-! ## Making files -/

theorem getLast?_of_empty_part {before blanks : List String} {last blank : String}
    (h : Path.parts path = before ++ last :: (blanks ++ [blank])) (hblank : blank = "") :
    path.toList.getLast? = some '/' := by
  obtain ⟨first, rest, hcons⟩ : ∃ first rest, before ++ last :: blanks = first :: rest :=
    List.exists_cons_of_ne_nil (by simp)
  have hparts : Path.parts path = first :: (rest ++ [""]) := by
    rw [h, hblank, ← List.cons_append, ← List.append_assoc, hcons, List.cons_append]
  have hchars := Text.toList_intercalate_cons '/' first (rest ++ [""])
  rw [eq_intercalate hparts]
  refine (congrArg List.getLast? hchars).trans ?_
  rw [List.flatMap_append, ← List.append_assoc]
  simp

/-- A file is made at the place of its path, which leads there afterwards. -/
theorem createFile_eq_ok {fs' : FileSystem} (h : fs.createFile path = .ok (place, fs')) :
    place = fs.placeOf path ∧ Grows nowhere (· = place) fs fs' ∧
      fs'.node? place = some (.file []) ∧ fs'.locate path = .ok place := by
  unfold createFile at h
  obtain ⟨⟨directory, last?⟩, hnew, h⟩ := bind_eq_ok.1 h
  cases last? with
  | none => cases h
  | some last =>
      simp only at h
      split at h
      · cases h
      · rename_i hname
        split at h
        · cases h
        · rename_i hshort
          split at h
          · cases h
          · rename_i hother
            cases h
            obtain ⟨⟨hdot, hdots⟩, hslash⟩ :
                (last ≠ "." ∧ last ≠ "..") ∧ path.toList.getLast? ≠ some '/' := by
              simpa using hname
            obtain ⟨hcheck, hdirectory, before, blanks, hparts, hne, hblanks, hleads⟩ :=
              locateNew_eq_ok hnew
            have hgrows : Grows nowhere (· = directory ++ [last]) fs
                (fs.set (directory ++ [last]) (.file [])) :=
              Grows.of_set_file (by simp) (by simpa using hother) []
            have hnode : (fs.set (directory ++ [last]) (.file [])).node? (directory ++ [last]) =
                some (.file []) := by
              rw [node?_set (by simp), if_pos rfl]
            refine ⟨(placeOf_of_locateNew hnew hdot hdots).symm, hgrows, hnode, ?_⟩
            have hnil : blanks = [] := by
              by_contra hsome
              rw [← List.dropLast_concat_getLast hsome] at hparts
              exact hslash (getLast?_of_empty_part hparts (hblanks _ (List.getLast_mem hsome)))
            subst hnil
            rw [locate_eq_ok, hparts, leads_concat, start_congr current_set]
            refine ⟨hcheck, directory, hgrows.leads hleads, ?_⟩
            exact enter_name (hgrows.directory hdirectory) (by simp [isComponent, hne, hdot]) hdots
              (Nat.not_lt.1 hshort) (by rw [hnode]; rfl)

theorem createFileAndParents_eq (fs : FileSystem) (path : String) :
    fs.createFileAndParents path =
      match fs.makeAncestors (ancestors path).tail with
      | (.error e, fs) => (.error e, fs)
      | (.ok (), fs) =>
        match fs.createFile path with
        | .error e => (.error e, fs)
        | .ok (place, fs) => (.ok place, fs) := by
  unfold createFileAndParents parent?
  cases hancestors : ancestors path with
  | nil => rfl
  | cons first more =>
      cases more with
      | nil =>
          by_cases habsolute : isAbsolute path = true
          · rw [habsolute]
            rfl
          · rw [Bool.eq_false_iff.2 habsolute]
            rfl
      | cons parent rest =>
          obtain ⟨hne, hparent⟩ := ancestors_parent hancestors
          simp only [if_neg hne, makeDirectories, hparent, List.tail_cons]
          cases fs.makeAncestors (parent :: rest) with
          | mk result made => cases result <;> rfl

/-- The places of the directories on the way to a file. -/
def onTheWay (fs : FileSystem) (path : String) : Location → Prop :=
  fs.placesOf (ancestors path).tail

/-- Whatever happens when a file is made, directories are made on the way only. -/
theorem createFileAndParents_grows {result : Except SystemError Location} {fs' : FileSystem}
    (h : fs.createFileAndParents path = (result, fs')) :
    Grows (fs.onTheWay path) (fun place => result = .ok place) fs fs' ∧
      ∀ place, result = .ok place → place = fs.placeOf path ∧
        fs'.node? place = some (.file []) ∧ fs'.locate path = .ok place := by
  rw [createFileAndParents_eq] at h
  have hparents := makeAncestors_grows fs (ancestors path).tail
  cases hmake : fs.makeAncestors (ancestors path).tail with
  | mk made parents =>
      rw [hmake] at h hparents
      cases made with
      | error e =>
          cases h
          exact ⟨hparents.mono (fun _ => id) fun _ => False.elim, by simp⟩
      | ok =>
          cases hfile : parents.createFile path with
          | error e =>
              simp only [hfile] at h
              cases h
              exact ⟨hparents.mono (fun _ => id) fun _ => False.elim, by simp⟩
          | ok made =>
              obtain ⟨place, files⟩ := made
              simp only [hfile] at h
              cases h
              obtain ⟨hplace, hgrows, hnode, hlocate⟩ := createFile_eq_ok hfile
              rw [placeOf_congr hparents.current] at hplace
              refine ⟨(hparents.mono (fun _ => id) fun _ => False.elim).trans
                (hgrows.mono (fun _ => False.elim) fun _ hq => by rw [hq]), ?_⟩
              rintro _ ⟨rfl⟩
              exact ⟨hplace, hnode, hlocate⟩

end FileSystem

end GrammarForge
