import GrammarForge.Proofs.FileSystem.Walks
import GrammarForge.Proofs.LogicalName.Components

/-!
# Places

Without links the text of a path and the current directory settle where the path leads, if it leads
anywhere. The path of a name below a directory leads down from where the directory is, and the
directories on its way are those on the way to that directory and some below it.
-/

namespace GrammarForge

open GrammarForge.Path

namespace FileSystem

/-- Where a part of a path leads. -/
def follow (place : Location) (part : String) : Location :=
  if !isComponent part then place
  else if part = ".." then place.dropLast
  else place ++ [part]

/-- Where a path leads if it leads anywhere. -/
def placeOf (fs : FileSystem) (path : String) : Location :=
  (Path.parts path).foldl follow (fs.start path)

variable {fs : FileSystem} {place next : Location} {part path : String} {parts : List String}

theorem follow_empty (place : Location) : follow place "" = place := if_pos (by decide)

theorem follow_normal (h : IsNormal part) : follow place part = place ++ [part] := by
  rw [follow, if_neg (by simp [h.component]), if_neg h.named]

theorem foldl_follow_normal (place : Location) (h : ∀ part ∈ parts, IsNormal part) :
    parts.foldl follow place = place ++ parts := by
  induction parts generalizing place with
  | nil => simp
  | cons part rest ih =>
      obtain ⟨hpart, hrest⟩ := List.forall_mem_cons.1 h
      rw [List.foldl_cons, follow_normal hpart, ih _ hrest, List.append_assoc,
        List.singleton_append]

theorem eq_follow_of_enter (h : fs.enter place part = .ok next) : next = follow place part := by
  rcases (enter_eq_ok h).2 with ⟨hnoise, rfl⟩ | ⟨rfl, rfl⟩ | ⟨hcomponent, hname, rfl⟩
  · rw [follow, if_pos (by simp [hnoise])]
  · rfl
  · rw [follow, if_neg (by simp [hcomponent]), if_neg hname]

theorem Leads.eq_foldl (h : fs.Leads place parts next) : next = parts.foldl follow place := by
  induction parts generalizing place with
  | nil => exact (leads_nil.1 h).symm
  | cons part rest ih =>
      obtain ⟨middle, hstep, hrest⟩ := leads_cons.1 h
      rw [ih hrest, eq_follow_of_enter hstep, List.foldl_cons]

theorem eq_placeOf_of_locate (h : fs.locate path = .ok place) : place = fs.placeOf path :=
  (locate_eq_ok.1 h).2.eq_foldl

theorem start_congr {fs' : FileSystem} (h : fs'.current = fs.current) (path : String) :
    fs'.start path = fs.start path := by
  rw [start, start, h]

theorem placeOf_congr {fs' : FileSystem} (h : fs'.current = fs.current) (path : String) :
    fs'.placeOf path = fs.placeOf path := by
  rw [placeOf, placeOf, start_congr h]

end FileSystem

namespace Path

variable {base path : String}

theorem isAbsolute_join (h : isAbsolute path = false) :
    isAbsolute (join base path) = isAbsolute base := by
  rw [join, if_neg (by simp [h])]
  by_cases hbase : base = ""
  · simpa [hbase, isAbsolute] using h
  · obtain ⟨c, rest, hchars⟩ := List.exists_cons_of_ne_nil (mt String.toList_eq_nil_iff.1 hbase)
    split <;> simp [isAbsolute, hchars]

/-- A path below a directory has the parts of the directory, except for an empty one at their end,
and then its own parts. -/
theorem parts_join (h : isAbsolute path = false) : ∃ front,
    parts (join base path) = front ++ parts path ∧
      (base = "" ∧ front = [] ∨
        front ≠ [] ∧ (parts base = front ∨ parts base = front ++ [""])) := by
  rw [join, if_neg (by simp [h])]
  by_cases hbase : base = ""
  · exact ⟨[], by simp [hbase], .inl ⟨hbase, rfl⟩⟩
  · by_cases hslash : base.toList.getLast? = some '/'
    · rw [if_pos (by simp [hslash])]
      obtain ⟨chars, hchars⟩ := List.getLast?_eq_some_iff.1 hslash
      have hfront : base = String.ofList chars ++ "/" := by
        apply String.toList_inj.1
        simp [hchars]
      refine ⟨parts (String.ofList chars), ?_, .inr ⟨parts_ne_nil _, .inr ?_⟩⟩
      · rw [hfront]
        exact Text.splitAtChar_append ..
      · have hparts := @Text.splitAtChar_append '/' (String.ofList chars) ""
        rw [String.append_empty] at hparts
        rw [hfront]
        exact hparts
    · rw [if_neg (by simp [hbase, hslash])]
      exact ⟨parts base, Text.splitAtChar_append .., .inr ⟨parts_ne_nil _, .inl rfl⟩⟩

theorem ancestorParts_cons {part : String} (h : isComponent part = true) (before : List String) :
    ancestorParts (part :: before) = (part :: before) :: ancestorParts before := by
  have hne : part ≠ "" := by
    rintro rfl
    cases h
  cases before with
  | nil => simp [ancestorParts, hne]
  | cons next more => exact if_pos h

theorem ancestorParts_noise {next : String} (before : List String) :
    ancestorParts ("" :: next :: before) = ancestorParts (next :: before) := if_neg (by decide)

/-- The ancestors are made of what is left when parts are dropped at the end, and the last part that
stays is not empty. -/
theorem suffix_of_mem_ancestorParts {ps qs : List String} (h : qs ∈ ancestorParts ps) :
    ∃ last before, qs = last :: before ∧ last ≠ "" ∧ qs <:+ ps := by
  fun_induction ancestorParts ps with
  | case1 => cases h
  | case2 => cases h
  | case3 first hfirst =>
      rw [List.mem_singleton] at h
      exact ⟨first, [], h, hfirst, h ▸ List.suffix_rfl⟩
  | case4 last before _ hlast ih =>
      rcases List.mem_cons.1 h with rfl | hmem
      · refine ⟨last, before, rfl, ?_, List.suffix_rfl⟩
        rintro rfl
        cases hlast
      · obtain ⟨part, more, rfl, hpart, hsuffix⟩ := ih hmem
        exact ⟨part, more, rfl, hpart, hsuffix.trans (List.suffix_cons ..)⟩
  | case5 last before _ _ ih =>
      obtain ⟨part, more, rfl, hpart, hsuffix⟩ := ih h
      exact ⟨part, more, rfl, hpart, hsuffix.trans (List.suffix_cons ..)⟩

/-- What comes after an ancestor are its own ancestors. -/
theorem ancestorParts_of_append {ps qs : List String} {before more : List (List String)}
    (h : ancestorParts ps = before ++ qs :: more) : ancestorParts qs = qs :: more := by
  fun_induction ancestorParts ps generalizing before with
  | case1 => simp at h
  | case2 => simp at h
  | case3 first hfirst =>
      obtain ⟨rfl, rfl, rfl⟩ : before = [] ∧ [first] = qs ∧ [] = more := by
        cases before with
        | nil => simpa using h
        | cons b before => simp at h
      rw [ancestorParts, if_neg hfirst]
  | case4 last outer _ hlast ih =>
      cases before with
      | nil =>
          cases h
          exact ancestorParts_cons hlast outer
      | cons b before => exact ih (List.cons.inj h).2
  | case5 last outer _ _ ih => exact ih h

/-- The name of a file is a part of its path. -/
theorem mem_parts_of_fileName? {name : String} (h : fileName? path = some name) :
    name ∈ parts path := by
  unfold fileName? at h
  split at h
  · next last before more hparts =>
      have hmem : last :: before ∈ ancestorParts (parts path).reverse := by simp [hparts]
      obtain ⟨_, _, -, -, hsuffix⟩ := suffix_of_mem_ancestorParts hmem
      have hlast : last ∈ parts path := List.mem_reverse.1 (hsuffix.subset List.mem_cons_self)
      split at h <;> cases h
      exact hlast
  · cases h

/-- The parts of an ancestor are parts of the path, from its start on. -/
theorem parts_of_mem_ancestorParts {qs : List String}
    (h : qs ∈ ancestorParts (parts path).reverse) :
    parts ("/".intercalate qs.reverse) = qs.reverse ∧ qs.reverse <+: parts path := by
  obtain ⟨last, before, rfl, -, hsuffix⟩ := suffix_of_mem_ancestorParts h
  have hleading : (last :: before).reverse <+: parts path := by
    rw [← List.reverse_suffix, List.reverse_reverse]
    exact hsuffix
  exact ⟨parts_intercalate (by simp) fun part hpart => slash_notMem (hleading.subset hpart),
    hleading⟩

theorem isAbsolute_of_mem_ancestorParts {qs : List String}
    (h : qs ∈ ancestorParts (parts path).reverse) :
    isAbsolute ("/".intercalate qs.reverse) = isAbsolute path := by
  obtain ⟨last, before, rfl, hlast, -⟩ := suffix_of_mem_ancestorParts h
  obtain ⟨more, hpath⟩ := (parts_of_mem_ancestorParts h).2
  obtain ⟨first, rest, hcons⟩ := List.exists_cons_of_ne_nil (l := (last :: before).reverse)
    (by simp)
  have hfirst : '/' ∉ first.toList := by
    apply @slash_notMem path
    rw [← hpath, hcons]
    simp
  -- If there is nothing but one part, this part is not empty.
  have hrest : rest = [] → first = last := by
    rintro rfl
    rw [List.reverse_eq_iff] at hcons
    cases hcons
    rfl
  rw [eq_intercalate hpath.symm, hcons, List.cons_append, isAbsolute_intercalate_cons hfirst,
    isAbsolute_intercalate_cons hfirst]
  by_cases hempty : first = ""
  · have hmore : rest ≠ [] := fun hnil => hlast (hrest hnil ▸ hempty)
    simp [hempty, hmore]
  · simp [hempty]

theorem ancestors_parent {first parent : String} {more : List String}
    (h : ancestors path = first :: parent :: more) :
    parent ≠ "" ∧ ancestors parent = parent :: more := by
  obtain ⟨ps, tail, hps, -, htail⟩ := List.map_eq_cons_iff.1 h
  obtain ⟨qs, rest, rfl, rfl, rfl⟩ := List.map_eq_cons_iff.1 htail
  have hqs : qs ∈ ancestorParts (parts path).reverse := by simp [hps]
  have hparts := parts_of_mem_ancestorParts hqs
  constructor
  · obtain ⟨last, before, rfl, hlast, -⟩ := suffix_of_mem_ancestorParts hqs
    apply @intercalate_ne_empty _ last (by simp) _ hlast
    exact slash_notMem (hparts.2.subset (by simp))
  · rw [ancestors, hparts.1, List.reverse_reverse, @ancestorParts_of_append _ _ [ps] _ hps,
      List.map_cons]

end Path

namespace FileSystem

variable {fs : FileSystem} {base path : String}

theorem start_join (h : isAbsolute path = false) : fs.start (join base path) = fs.start base := by
  rw [start, start, isAbsolute_join h]

/-- An empty part at the end of a directory leads nowhere. -/
theorem foldl_follow_front {front : List String}
    (h : base = "" ∧ front = [] ∨ front ≠ [] ∧ (parts base = front ∨ parts base = front ++ [""])) :
    front.foldl follow (fs.start base) = fs.placeOf base := by
  rcases h with ⟨rfl, rfl⟩ | ⟨-, h | h⟩
  · rfl
  · rw [placeOf, h]
  · rw [placeOf, h, List.foldl_append, List.foldl_cons, follow_empty, List.foldl_nil]

theorem placeOf_join (n : LogicalName) :
    fs.placeOf (join base n.relativePath) = fs.placeOf base ++ n.fileComponents := by
  obtain ⟨front, hparts, hfront⟩ := @parts_join base _ n.isAbsolute_relativePath
  rw [placeOf, hparts, start_join n.isAbsolute_relativePath, List.foldl_append,
    foldl_follow_front hfront, n.parts_relativePath,
    foldl_follow_normal _ n.isNormal_fileComponents]

theorem placeOf_ancestor {qs : List String} (h : qs ∈ ancestorParts (parts path).reverse) :
    fs.placeOf ("/".intercalate qs.reverse) = qs.reverse.foldl follow (fs.start path) := by
  rw [placeOf, (parts_of_mem_ancestorParts h).1, start, isAbsolute_of_mem_ancestorParts h]
  rfl

theorem mem_ancestorParts_append {cs rest qs : List String} (hcs : ∀ part ∈ cs, IsNormal part)
    (h : qs ∈ ancestorParts (cs ++ rest)) :
    (∃ kept, (∀ part ∈ kept, IsNormal part) ∧ qs = kept ++ rest) ∨ qs ∈ ancestorParts rest := by
  induction cs with
  | nil => exact .inr h
  | cons c cs ih =>
      obtain ⟨hc, hrest⟩ := List.forall_mem_cons.1 hcs
      rw [List.cons_append, ancestorParts_cons hc.component] at h
      rcases List.mem_cons.1 h with rfl | hmem
      · exact .inl ⟨c :: cs, hcs, rfl⟩
      · exact ih hrest hmem

/-- What is on the way to the file of a name is on the way to the directory or below it. -/
theorem mem_ancestors_join {n : LogicalName} {a : String}
    (h : a ∈ ancestors (join base n.relativePath)) :
    a ∈ ancestors base ∨ fs.placeOf base <+: fs.placeOf a := by
  obtain ⟨qs, hqs, rfl⟩ := List.mem_map.1 h
  obtain ⟨front, hparts, hfront⟩ := @parts_join base _ n.isAbsolute_relativePath
  rw [placeOf_ancestor hqs]
  rw [hparts, List.reverse_append, n.parts_relativePath] at hqs
  have hnormal : ∀ part ∈ n.fileComponents.reverse, IsNormal part := fun part hpart =>
    n.isNormal_fileComponents part (List.mem_reverse.1 hpart)
  rcases mem_ancestorParts_append hnormal hqs with ⟨kept, hkept, rfl⟩ | hfound
  · right
    rw [List.reverse_append, List.reverse_reverse, List.foldl_append,
      start_join n.isAbsolute_relativePath, foldl_follow_front hfront,
      foldl_follow_normal _ fun part hpart => hkept part (List.mem_reverse.1 hpart)]
    exact List.prefix_append ..
  · left
    apply List.mem_map_of_mem
    rcases hfront with ⟨-, rfl⟩ | ⟨hne, h | h⟩
    · cases hfound
    · rwa [h]
    · rw [h, List.reverse_append, List.reverse_singleton, List.singleton_append]
      obtain ⟨last, before, hreverse⟩ :=
        List.exists_cons_of_ne_nil (mt List.reverse_eq_nil_iff.1 hne)
      rw [hreverse] at hfound ⊢
      rwa [ancestorParts_noise]

end FileSystem

end GrammarForge
