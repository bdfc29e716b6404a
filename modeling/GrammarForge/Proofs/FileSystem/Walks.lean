import GrammarForge.Proofs.FileSystem.Parents
import Mathlib

/-!
# Walks through a file system

A path is followed part by part, and only its components count, as long as all that is passed is
directories. The system follows a path in two ways. Either it gets the whole path, or it is asked
about every place on the way by its absolute path. The two lead to the same place except where an
absolute path is too long.
-/

namespace GrammarForge

/-- A chain of steps succeeds if each of them does. -/
theorem bind_eq_ok {ε α β : Type} {x : Except ε α} {f : α → Except ε β} {b : β} :
    x >>= f = .ok b ↔ ∃ a, x = .ok a ∧ f a = .ok b := by
  cases x with
  | error e => simp [bind, Except.bind]
  | ok a => simp [bind, Except.bind]

namespace FileSystem

open GrammarForge.Path

variable {fs : FileSystem} {place next : Location} {part : String} {parts : List String}

theorem enter_eq_ok (h : fs.enter place part = .ok next) :
    fs.isDirectory place = true ∧
      (isComponent part = false ∧ next = place ∨
        part = ".." ∧ next = place.dropLast ∨
        isComponent part = true ∧ part ≠ ".." ∧ next = place ++ [part]) := by
  unfold enter at h
  split at h
  · cases h
  · rename_i hdirectory
    refine ⟨by simpa using hdirectory, ?_⟩
    split at h
    · rename_i hnoise
      cases h
      exact .inl ⟨by simpa using hnoise, rfl⟩
    · rename_i hcomponent
      split at h
      · rename_i hup
        cases h
        exact .inr (.inl ⟨hup, rfl⟩)
      · rename_i hname
        split at h
        · cases h
        · split at h
          · cases h
            exact .inr (.inr ⟨by simpa using hcomponent, hname, rfl⟩)
          · cases h

theorem enter_noise (hdirectory : fs.isDirectory place = true)
    (hnoise : isComponent part = false) : fs.enter place part = .ok place := by
  simp [enter, hdirectory, hnoise]

theorem enter_name (hdirectory : fs.isDirectory place = true) (hcomponent : isComponent part = true)
    (hname : part ≠ "..") (hsize : part.utf8ByteSize ≤ maxNameLength)
    (hnode : (fs.node? (place ++ [part])).isSome = true) :
    fs.enter place part = .ok (place ++ [part]) := by
  simp [enter, hdirectory, hcomponent, hname, Nat.not_lt.2 hsize, hnode]

/-- From one place to another along these parts. -/
def Leads (fs : FileSystem) (place : Location) (parts : List String) (next : Location) : Prop :=
  parts.foldlM fs.enter place = .ok next

@[simp] theorem leads_nil : fs.Leads place [] next ↔ place = next := by
  simp [Leads, pure, Except.pure]

theorem leads_cons : fs.Leads place (part :: parts) next ↔
    ∃ middle, fs.enter place part = .ok middle ∧ fs.Leads middle parts next := by
  unfold Leads
  rw [List.foldlM_cons]
  exact bind_eq_ok

theorem leads_append {more : List String} : fs.Leads place (parts ++ more) next ↔
    ∃ middle, fs.Leads place parts middle ∧ fs.Leads middle more next := by
  unfold Leads
  rw [List.foldlM_append]
  exact bind_eq_ok

theorem leads_concat : fs.Leads place (parts ++ [part]) next ↔
    ∃ middle, fs.Leads place parts middle ∧ fs.enter middle part = .ok next := by
  simp only [leads_append, leads_cons, leads_nil, exists_eq_right]

/-- Whoever arrives at a directory has come from one. -/
theorem Leads.isDirectory (h : fs.Leads place parts next) (hnext : fs.isDirectory next = true) :
    fs.isDirectory place = true := by
  cases parts with
  | nil => rwa [leads_nil.1 h]
  | cons part rest =>
      obtain ⟨middle, hstep, -⟩ := leads_cons.1 h
      exact (enter_eq_ok hstep).1

/-- On the way to a directory only components count. -/
theorem leads_components (hnext : fs.isDirectory next = true) :
    fs.Leads place (parts.filter isComponent) next ↔ fs.Leads place parts next := by
  induction parts generalizing place with
  | nil => rfl
  | cons part rest ih =>
      cases hpart : isComponent part with
      | true =>
          rw [List.filter_cons_of_pos hpart, leads_cons, leads_cons]
          simp only [ih]
      | false =>
          rw [List.filter_cons_of_neg (by simp [hpart]), ih, leads_cons]
          constructor
          · intro hrest
            exact ⟨place, enter_noise (hrest.isDirectory hnext) hpart, hrest⟩
          · rintro ⟨middle, hstep, hrest⟩
            have hmiddle : middle = place := by
              rcases (enter_eq_ok hstep).2 with ⟨-, h⟩ | ⟨rfl, -⟩ | ⟨h, -, -⟩
              · exact h
              · cases hpart
              · rw [hpart] at h
                cases h
            rwa [hmiddle] at hrest

/-- The places that these components enter by their names. -/
def entered (place : Location) : List String → List Location
  | [] => []
  | part :: rest =>
    if part = ".." then entered place.dropLast rest
    else (place ++ [part]) :: entered (place ++ [part]) rest

/-- A location whose absolute path the system takes. -/
def isShort (place : Location) : Bool := (absolutePath place).utf8ByteSize ≤ maxPathLength

/-- A slash and a name for every step from the root. -/
theorem utf8ByteSize_absolutePath (h : place ≠ []) :
    (absolutePath place).utf8ByteSize = (place.map (·.utf8ByteSize + 1)).sum := by
  have hslash : "/".utf8ByteSize = 1 := rfl
  obtain ⟨first, rest, rfl⟩ := List.exists_cons_of_ne_nil h
  clear h
  rw [absolutePath, String.utf8ByteSize_append, hslash]
  induction rest generalizing first with
  | nil => simp [Nat.add_comm]
  | cons second rest ih =>
      rw [String.intercalate_cons_cons, String.utf8ByteSize_append, String.utf8ByteSize_append,
        hslash, List.map_cons, List.sum_cons, ← ih second]
      omega

/-- No place that a path enters by its name has an absolute path that is too long. -/
def hasShortWay (fs : FileSystem) (path : String) : Bool :=
  (entered (fs.start path) (components path)).all isShort

/-- Asking about absolute paths leads to the same place, if none of them is too long. -/
theorem Leads.absolute (h : fs.Leads place parts next) :
    parts.foldlM fs.enterAbsolute place =
      if (entered place (parts.filter isComponent)).all isShort then .ok next
      else .error .nameTooLong := by
  -- Only a component that is a name is asked about, so the places are those of the components.
  induction parts generalizing place with
  | nil =>
      rw [leads_nil.1 h]
      rfl
  | cons part rest ih =>
      obtain ⟨middle, hstep, hrest⟩ := leads_cons.1 h
      rw [List.foldlM_cons, enterAbsolute, hstep]
      rcases (enter_eq_ok hstep).2 with ⟨hnoise, rfl⟩ | ⟨rfl, rfl⟩ | ⟨hcomponent, hname, rfl⟩
      · rw [List.filter_cons_of_neg (by simp [hnoise]), ← ih hrest]
        simp [hnoise, bind, Except.bind]
      · rw [List.filter_cons_of_pos (by decide), entered, if_pos rfl, ← ih hrest]
        simp [bind, Except.bind]
      · rw [List.filter_cons_of_pos hcomponent, entered, if_neg hname, List.all_cons]
        by_cases hlong : maxPathLength < (absolutePath (place ++ [part])).utf8ByteSize
        · have hshort : isShort (place ++ [part]) = false := by simpa [isShort] using hlong
          rw [hshort, Bool.false_and]
          simp [hcomponent, hname, hlong, bind, Except.bind]
        · have hshort : isShort (place ++ [part]) = true := by simpa [isShort] using hlong
          rw [hshort, Bool.true_and, ← ih hrest]
          simp [hlong, bind, Except.bind]

theorem canonicalize_of_leads {path : String} (htext : checkText path = .ok ())
    (h : fs.Leads (fs.start path) (Path.parts path) next) :
    fs.canonicalize path =
      if fs.hasShortWay path then .ok (absolutePath next) else .error .nameTooLong := by
  rw [canonicalize, htext, h.absolute, hasShortWay, components]
  cases (entered (fs.start path) ((Path.parts path).filter isComponent)).all isShort with
  | true => rfl
  | false => rfl

theorem locate_eq_ok {path : String} : fs.locate path = .ok place ↔
    checkPath path = .ok () ∧ fs.Leads (fs.start path) (Path.parts path) place := by
  unfold locate
  rw [bind_eq_ok]
  constructor
  · rintro ⟨⟨⟩, hcheck, hleads⟩
    exact ⟨hcheck, hleads⟩
  · rintro ⟨hcheck, hleads⟩
    exact ⟨(), hcheck, hleads⟩

theorem readBytes_eq_ok {path : String} {content : Bytes} : fs.readBytes path = .ok content ↔
    ∃ place, fs.locate path = .ok place ∧ fs.node? place = some (.file content) := by
  unfold readBytes
  rw [bind_eq_ok]
  refine exists_congr fun place => and_congr_right fun _ => ?_
  cases fs.node? place with
  | none => simp
  | some node =>
      cases node with
      | directory => simp
      | file found => simp [pure, Except.pure]

/-- A file lies in a directory, to which the parts before the last one lead. -/
theorem directory_of_file {path : String} {content : Bytes} (h : fs.readBytes path = .ok content) :
    checkText path = .ok () ∧ ∃ before last directory,
      Path.parts path = before ++ [last] ∧ isComponent last = true ∧
        fs.Leads (fs.start path) before directory ∧ fs.isDirectory directory = true := by
  obtain ⟨place, hlocate, hfile⟩ := readBytes_eq_ok.1 h
  obtain ⟨hcheck, hleads⟩ := locate_eq_ok.1 hlocate
  obtain ⟨_, htext, -⟩ := bind_eq_ok.1 hcheck
  refine ⟨htext, ?_⟩
  obtain ⟨before, last, hparts⟩ : ∃ before last, Path.parts path = before ++ [last] :=
    ⟨_, _, (List.dropLast_concat_getLast (parts_ne_nil path)).symm⟩
  rw [hparts, leads_concat] at hleads
  obtain ⟨directory, hbefore, hlast⟩ := hleads
  obtain ⟨hdirectory, hcases⟩ := enter_eq_ok hlast
  refine ⟨before, last, directory, hparts, ?_, hbefore, hdirectory⟩
  rcases hcases with ⟨-, rfl⟩ | ⟨rfl, -⟩ | ⟨hcomponent, -, -⟩
  · -- A part that leads nowhere would end the path at a directory.
    simp [isDirectory, hfile] at hdirectory
  · rfl
  · exact hcomponent

theorem checkText_directoryOf {path last : String} {before : List String}
    (hparts : Path.parts path = before ++ [last]) (hlast : isComponent last = true)
    (h : checkText path = .ok ()) : checkText (Attempt.directoryOf path) = .ok () := by
  have hnul : '\x00' ∉ path.toList := by
    intro hmem
    simp [checkText, hmem] at h
  have hdirectory : '\x00' ∉ (Attempt.directoryOf path).toList := fun hmem =>
    hnul (Attempt.mem_directoryOf hparts hlast (by decide) (by decide) hmem)
  simp [checkText, hdirectory, Attempt.directoryOf_ne_empty hparts hlast]

/-- The directory of a file that can be read has an absolute path, unless one on the way is too
long. -/
theorem canonicalize_directoryOf {path : String} {content : Bytes}
    (h : fs.readBytes path = .ok content) : ∃ base,
      fs.canonicalize (Attempt.directoryOf path) =
        if fs.hasShortWay (Attempt.directoryOf path) then .ok base else .error .nameTooLong := by
  obtain ⟨htext, before, last, directory, hparts, hlast, hbefore, hdirectory⟩ :=
    directory_of_file h
  have hstart : fs.start (Attempt.directoryOf path) = fs.start path := by
    simp only [start, Attempt.isAbsolute_directoryOf hparts hlast]
  have hway : fs.Leads (fs.start (Attempt.directoryOf path))
      (Path.parts (Attempt.directoryOf path)) directory := by
    have hcomponents := Attempt.components_directoryOf hparts hlast
    unfold components at hcomponents
    apply (leads_components hdirectory).1
    rw [hstart, hcomponents]
    exact (leads_components hdirectory).2 hbefore
  exact ⟨absolutePath directory,
    canonicalize_of_leads (checkText_directoryOf hparts hlast htext) hway⟩

end FileSystem

end GrammarForge
