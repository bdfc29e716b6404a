import GrammarForge.Processing.Attempt
import GrammarForge.Proofs.Text.Parts

/-!
# Parents

The directory in which a file lies is found on the text of its path. Its parts are those of the path
before the last component, up to parts that lead nowhere.
-/

namespace GrammarForge

namespace Path

theorem parts_ne_nil (path : String) : parts path ≠ [] := Text.splitAtChar_ne_nil path

theorem slash_notMem {path part : String} (h : part ∈ parts path) : '/' ∉ part.toList :=
  Text.notMem_of_mem_splitAtChar h

theorem intercalate_parts (path : String) : "/".intercalate (parts path) = path :=
  Text.intercalate_splitAtChar path

theorem eq_intercalate {path : String} {ps : List String} (h : parts path = ps) :
    path = "/".intercalate ps := by
  rw [← h, intercalate_parts]

theorem parts_intercalate {ps : List String} (hne : ps ≠ [])
    (h : ∀ part ∈ ps, '/' ∉ part.toList) : parts ("/".intercalate ps) = ps :=
  Text.splitAtChar_intercalate hne h

/-- A path is absolute if there is nothing before its first slash. -/
theorem isAbsolute_intercalate_cons {first : String} {rest : List String}
    (hfirst : '/' ∉ first.toList) :
    isAbsolute ("/".intercalate (first :: rest)) = decide (first = "" ∧ rest ≠ []) := by
  have hchars := Text.toList_intercalate_cons '/' first rest
  unfold isAbsolute
  refine (congrArg (fun chars : List Char => decide (chars.head? = some '/')) hchars).trans ?_
  cases hfirstChars : first.toList with
  | nil =>
      rw [String.toList_eq_nil_iff.1 hfirstChars]
      cases rest with
      | nil => simp
      | cons next rest => simp
  | cons c chars =>
      rw [hfirstChars] at hfirst
      have hc : c ≠ '/' := by
        rintro rfl
        exact hfirst List.mem_cons_self
      have hne : first ≠ "" := by
        rintro rfl
        cases hfirstChars
      simp [hc, hne]

/-- The parts of a path that are components wherever they stand. -/
def components (path : String) : List String := (parts path).filter isComponent

/-- Where the first part of a list of ancestors comes from. Lists are in reverse. -/
theorem ancestorParts_cases {parts : List String} (hne : parts ≠ []) :
    (ancestorParts parts = [] ∧
      ∃ noise, parts = noise ++ [""] ∧ ∀ part ∈ noise, isComponent part = false) ∨
    ∃ noise last before more, parts = noise ++ last :: before ∧
      (∀ part ∈ noise, isComponent part = false) ∧ last ≠ "" ∧
        ancestorParts parts = (last :: before) :: more := by
  fun_induction ancestorParts parts with
  | case1 => exact absurd rfl hne
  | case2 => exact .inl ⟨rfl, [], rfl, by simp⟩
  | case3 first h => exact .inr ⟨[], first, [], [], rfl, by simp, h, rfl⟩
  | case4 last before hbefore h =>
      have hlast : last ≠ "" := by
        rintro rfl
        cases h
      exact .inr ⟨[], last, before, _, rfl, by simp, hlast, rfl⟩
  | case5 last before hbefore h ih =>
      have hlast : isComponent last = false := by simpa using h
      rcases ih (by simpa using hbefore) with ⟨hnone, noise, rfl, hnoise⟩ |
        ⟨noise, part, rest, more, rfl, hnoise, hpart, heq⟩
      · refine .inl ⟨hnone, last :: noise, rfl, ?_⟩
        exact List.forall_mem_cons.2 ⟨hlast, hnoise⟩
      · refine .inr ⟨last :: noise, part, rest, more, rfl, ?_, hpart, heq⟩
        exact List.forall_mem_cons.2 ⟨hlast, hnoise⟩

theorem intercalate_ne_empty {ps : List String} {part : String} (hmem : part ∈ ps)
    (hslash : '/' ∉ part.toList) (hne : part ≠ "") : "/".intercalate ps ≠ "" := by
  intro hempty
  obtain ⟨c, rest, hchars⟩ := List.exists_cons_of_ne_nil (mt String.toList_eq_nil_iff.1 hne)
  have hc : c ∈ part.toList := hchars ▸ List.mem_cons_self
  have hcslash : c ≠ '/' := fun h => hslash (h ▸ hc)
  have hin : c ∈ ("/".intercalate ps).toList :=
    (Text.mem_intercalate hcslash).2 ⟨part, hmem, hc⟩
  rw [hempty] at hin
  cases hin

end Path

namespace Attempt

open GrammarForge.Path

variable {path last : String} {before : List String}

/-- What the directory of a path is made of: nothing, the root, or the parts before the last one
without those at their end that are no components. -/
theorem directoryOf_cases (hparts : parts path = before ++ [last])
    (hlast : isComponent last = true) :
    (before = [] ∧ directoryOf path = ".") ∨
    (∃ noise, before = "" :: noise ∧ (∀ part ∈ noise, isComponent part = false) ∧
      directoryOf path = "/") ∨
    ∃ kept noise, before = kept ++ noise ∧ (∀ part ∈ noise, isComponent part = false) ∧
      kept ≠ [] ∧ directoryOf path = "/".intercalate kept ∧ "/".intercalate kept ≠ "" := by
  have hpath := eq_intercalate hparts
  have hslash : ∀ part ∈ before ++ [last], '/' ∉ part.toList :=
    fun part hpart => slash_notMem (hparts ▸ hpart)
  have hne : last ≠ "" := by
    rintro rfl
    cases hlast
  unfold directoryOf parent? ancestors
  rw [hparts, List.reverse_append, List.reverse_singleton, List.singleton_append]
  cases hbefore : before.reverse with
  | nil =>
      rw [List.reverse_eq_nil_iff] at hbefore
      subst hbefore
      have habsolute : isAbsolute path = false := by
        rw [hpath, List.nil_append, isAbsolute_intercalate_cons (hslash last (by simp))]
        simp
      refine .inl ⟨rfl, ?_⟩
      simp [ancestorParts, hne, habsolute]
  | cons next outer =>
      have hcons : ancestorParts (last :: next :: outer) =
          (last :: next :: outer) :: ancestorParts (next :: outer) := if_pos hlast
      rw [hcons]
      rcases ancestorParts_cases (List.cons_ne_nil next outer) with ⟨hnone, noise, heq, hnoise⟩ |
        ⟨noise, part, rest, more, heq, hnoise, hpart, hsome⟩
      · have hshape : before = "" :: noise.reverse := by
          rw [← before.reverse_reverse, hbefore, heq]
          simp
        have habsolute : isAbsolute path = true := by
          rw [hpath, hshape, List.cons_append, isAbsolute_intercalate_cons (by simp)]
          simp
        refine .inr (.inl ⟨noise.reverse, hshape, by simpa using hnoise, ?_⟩)
        simp [hnone, habsolute]
      · have hshape : before = (part :: rest).reverse ++ noise.reverse := by
          rw [← before.reverse_reverse, hbefore, heq, List.reverse_append]
        have hpartSlash : '/' ∉ part.toList := by
          apply hslash
          rw [hshape]
          simp
        have htext : "/".intercalate (part :: rest).reverse ≠ "" :=
          intercalate_ne_empty (by simp) hpartSlash hpart
        refine .inr (.inr ⟨(part :: rest).reverse, noise.reverse, hshape, by simpa using hnoise,
          by simp, ?_, htext⟩)
        simp only [hsome, List.map_cons, if_neg htext]

theorem isAbsolute_directoryOf (hparts : parts path = before ++ [last])
    (hlast : isComponent last = true) : isAbsolute (directoryOf path) = isAbsolute path := by
  have hpath := eq_intercalate hparts
  have hslash : ∀ part ∈ before ++ [last], '/' ∉ part.toList :=
    fun part hpart => slash_notMem (hparts ▸ hpart)
  rw [hpath]
  rcases directoryOf_cases hparts hlast with ⟨rfl, hdirectory⟩ | ⟨noise, rfl, -, hdirectory⟩ |
    ⟨kept, noise, rfl, -, hkept, hdirectory, hne⟩
  · rw [← hpath, hdirectory, hpath, List.nil_append,
      isAbsolute_intercalate_cons (hslash last (by simp))]
    simp [isAbsolute]
  · rw [← hpath, hdirectory, hpath, List.cons_append, isAbsolute_intercalate_cons (by simp)]
    simp [isAbsolute]
  · obtain ⟨first, rest, rfl⟩ := List.exists_cons_of_ne_nil hkept
    have hfirst : '/' ∉ first.toList := hslash first (by simp)
    rw [← hpath, hdirectory, hpath, isAbsolute_intercalate_cons hfirst, List.cons_append,
      List.cons_append, isAbsolute_intercalate_cons hfirst]
    -- Nothing but one empty part would give the empty text.
    have hrest : first = "" → rest ≠ [] := by
      rintro rfl rfl
      exact hne rfl
    by_cases h : first = ""
    · simp [h, hrest h]
    · simp [h]

/-- The directory of a path has the components of the path without the last one. -/
theorem components_directoryOf (hparts : parts path = before ++ [last])
    (hlast : isComponent last = true) :
    components (directoryOf path) = before.filter isComponent := by
  have hslash : ∀ part ∈ before ++ [last], '/' ∉ part.toList :=
    fun part hpart => slash_notMem (hparts ▸ hpart)
  unfold components
  rcases directoryOf_cases hparts hlast with ⟨rfl, hdirectory⟩ |
    ⟨noise, rfl, hnoise, hdirectory⟩ | ⟨kept, noise, rfl, hnoise, hkept, hdirectory, -⟩
  · rw [hdirectory]
    decide
  · have hnone : noise.filter isComponent = [] := by simpa using hnoise
    rw [hdirectory, List.filter_cons_of_neg (by decide), hnone]
    decide
  · have hnone : noise.filter isComponent = [] := by simpa using hnoise
    have hkeptSlash : ∀ part ∈ kept, '/' ∉ part.toList :=
      fun part hpart => hslash part (by simp [hpart])
    rw [hdirectory, parts_intercalate hkept hkeptSlash, List.filter_append, hnone,
      List.append_nil]

theorem mem_directoryOf {c : Char} (hparts : parts path = before ++ [last])
    (hlast : isComponent last = true) (hslash : c ≠ '/') (hdot : c ≠ '.')
    (hc : c ∈ (directoryOf path).toList) : c ∈ path.toList := by
  rcases directoryOf_cases hparts hlast with ⟨-, hdirectory⟩ | ⟨_, -, -, hdirectory⟩ |
    ⟨kept, noise, rfl, -, -, hdirectory, -⟩
  · rw [hdirectory] at hc
    simp [hdot] at hc
  · rw [hdirectory] at hc
    simp [hslash] at hc
  · rw [hdirectory] at hc
    obtain ⟨part, hpart, hcpart⟩ := (Text.mem_intercalate hslash).1 hc
    rw [eq_intercalate hparts]
    exact (Text.mem_intercalate hslash).2 ⟨part, by simp [hpart], hcpart⟩

theorem directoryOf_ne_empty (hparts : parts path = before ++ [last])
    (hlast : isComponent last = true) : directoryOf path ≠ "" := by
  rcases directoryOf_cases hparts hlast with ⟨-, hdirectory⟩ | ⟨_, -, -, hdirectory⟩ |
    ⟨_, _, -, -, -, hdirectory, hne⟩
  · simp [hdirectory]
  · simp [hdirectory]
  · rwa [hdirectory]

end Attempt

end GrammarForge
