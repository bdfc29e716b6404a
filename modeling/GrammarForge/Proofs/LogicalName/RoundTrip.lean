import GrammarForge.LogicalName
import GrammarForge.Proofs.Code.Identifiers
import Mathlib

/-!
# Names are read back

The text of a logical name is read as that name, and what is read as a name is its text, but for
blanks. So a name that is handed on as text loses nothing, and beside every name there is one with
any other simple name in the same module.
-/

namespace GrammarForge

namespace Segment

theorem isWord (s : Segment) : IsWord s.text.toList := Code.isWord_of_isIdentifier s.isIdentifier

theorem allIdent (s : Segment) : Text.AllIdent s.text.toList := s.isWord.all

theorem ne_empty (s : Segment) : s.text ≠ "" := by
  obtain ⟨c, rest, hchars, -⟩ := s.isWord
  intro hempty
  rw [hempty] at hchars
  cases hchars

theorem notMem (s : Segment) {c : Char} (hc : Text.isIdentRest c = false) : c ∉ s.text.toList := by
  intro hmem
  rw [s.allIdent c hmem] at hc
  cases hc

end Segment

namespace Text

theorem isBlank_of_isIdentRest {c : Char} (h : isIdentRest c = true) : isBlank c = false := by
  have hall {d : Char} := forall_ascii (c := d)
    (fun c => isIdentRest c = true → isBlank c = false) (by decide +kernel)
  exact hall (isAscii_of_isIdentRest h) h

theorem trim_eq_self {s : String} (hfirst : ∀ c ∈ s.toList.head?, isBlank c = false)
    (hlast : ∀ c ∈ s.toList.getLast?, isBlank c = false) : trim s = s := by
  have hdrop : ∀ chars : List Char, (∀ c ∈ chars.head?, isBlank c = false) →
      chars.dropWhile isBlank = chars := by
    intro chars h
    cases chars with
    | nil => rfl
    | cons c rest => exact List.dropWhile_cons_of_neg (by simp [h c rfl])
  have hreverse : ∀ c ∈ s.toList.reverse.head?, isBlank c = false := by
    rw [List.head?_reverse]
    exact hlast
  rw [trim, trimChars, hdrop _ hfirst, hdrop _ hreverse, List.reverse_reverse,
    String.ofList_toList]

end Text

namespace LogicalName

theorem splitChars_of_notMem {piece : List Char} (h : ':' ∉ piece) :
    splitChars piece = (piece, []) := by
  induction piece with
  | nil => rfl
  | cons c rest ih =>
      obtain ⟨hc, hrest⟩ : ':' ≠ c ∧ ':' ∉ rest := by simpa using h
      have hstep : splitChars (c :: rest) =
          (c :: (splitChars rest).1, (splitChars rest).2) := by
        rw [splitChars]
        intro _ hcolon
        exact absurd hcolon.symm hc
      rw [hstep, ih hrest]

theorem splitChars_append {piece : List Char} (h : ':' ∉ piece) (rest : List Char) :
    splitChars (piece ++ ':' :: ':' :: rest) =
      (piece, (splitChars rest).1 :: (splitChars rest).2) := by
  induction piece with
  | nil => rfl
  | cons c piece ih =>
      obtain ⟨hc, hpiece⟩ : ':' ≠ c ∧ ':' ∉ piece := by simpa using h
      have hstep : splitChars (c :: (piece ++ ':' :: ':' :: rest)) =
          (c :: (splitChars (piece ++ ':' :: ':' :: rest)).1,
            (splitChars (piece ++ ':' :: ':' :: rest)).2) := by
        rw [splitChars]
        intro _ hcolon
        exact absurd hcolon.symm hc
      rw [List.cons_append, hstep, ih hpiece]

/-- The characters of segments with `::` between them. -/
theorem toList_joinSegments_cons (s : Segment) (rest : List Segment) :
    (joinSegments (s :: rest)).toList =
      s.text.toList ++ rest.flatMap fun next => ':' :: ':' :: next.text.toList := by
  induction rest generalizing s with
  | nil => simp [joinSegments]
  | cons next rest ih =>
      have hnext := ih next
      simp only [joinSegments, List.map_cons, String.toList_intercalate,
        List.intercalate_cons_cons, List.flatMap_cons] at hnext ⊢
      rw [hnext]
      simp

theorem splitChars_joinSegments (s : Segment) (rest : List Segment) :
    splitChars (joinSegments (s :: rest)).toList =
      (s.text.toList, rest.map (·.text.toList)) := by
  rw [toList_joinSegments_cons]
  have hcolon : ∀ t : Segment, ':' ∉ t.text.toList := fun t => t.notMem (by decide)
  induction rest generalizing s with
  | nil => simpa using splitChars_of_notMem (hcolon s)
  | cons next rest ih =>
      rw [List.flatMap_cons, List.cons_append, List.cons_append, splitChars_append (hcolon s),
        ih next, List.map_cons]

theorem parseSegment_text (name : String) (s : Segment) : parseSegment name s.text = .ok s := by
  have hreserved : ¬ Text.isReserved s.text = true := by simp [s.notReserved]
  rw [parseSegment, if_neg s.ne_empty, dif_neg hreserved, dif_pos s.isIdentifier]

theorem mapM_parseSegment (name : String) (segments : List Segment) :
    (segments.map (·.text.toList)).mapM (fun piece => parseSegment name (String.ofList piece)) =
      .ok segments := by
  induction segments with
  | nil => rfl
  | cons s rest ih =>
      rw [List.map_cons, List.mapM_cons, ih, String.ofList_toList, parseSegment_text]
      rfl

theorem ofSegments_append (modules : List Segment) (simple : Segment) :
    ∃ first rest, modules ++ [simple] = first :: rest ∧
      ofSegments first rest = ⟨modules, simple⟩ := by
  induction modules with
  | nil => exact ⟨simple, [], rfl, rfl⟩
  | cons s modules ih =>
      obtain ⟨first, rest, heq, hname⟩ := ih
      refine ⟨s, first :: rest, by rw [List.cons_append, heq], ?_⟩
      rw [ofSegments, hname]

theorem trim_text (n : LogicalName) : Text.trim n.text = n.text := by
  apply Text.trim_eq_self
  · obtain ⟨first, rest, heq, -⟩ := ofSegments_append n.modules n.simple
    obtain ⟨c, more, hchars, hc, -⟩ := first.isWord
    rw [text, segments, heq, toList_joinSegments_cons, hchars]
    intro d hd
    obtain rfl : c = d := by simpa using hd
    apply Text.isBlank_of_isIdentRest
    exact first.allIdent c (by simp [hchars])
  · -- The last character of the text is the last one of the simple name.
    have hend : ∃ before, n.text.toList = before ++ n.simple.text.toList := by
      rw [text, segments]
      cases n.modules with
      | nil => exact ⟨[], by simp [joinSegments]⟩
      | cons s rest =>
          rw [List.cons_append, toList_joinSegments_cons, List.flatMap_append]
          exact ⟨s.text.toList ++ (rest.flatMap fun next => ':' :: ':' :: next.text.toList) ++
            [':', ':'], by simp⟩
    obtain ⟨before, hchars⟩ := hend
    obtain ⟨c, more, hsimple, -⟩ := n.simple.isWord
    have hne : n.simple.text.toList ≠ [] := by simp [hsimple]
    rw [hchars, List.getLast?_append_of_ne_nil _ hne]
    intro d hd
    exact Text.isBlank_of_isIdentRest (n.simple.allIdent d (List.mem_of_mem_getLast? hd))

/-- A name is read from its text. -/
theorem parse_text (n : LogicalName) : parse n.text = .ok n := by
  obtain ⟨first, rest, heq, hname⟩ := ofSegments_append n.modules n.simple
  have hsplit : splitChars n.text.toList = (first.text.toList, rest.map (·.text.toList)) := by
    rw [text, segments, heq, splitChars_joinSegments]
  have hne : n.text ≠ "" := by
    intro hempty
    obtain ⟨c, more, hchars, -⟩ := first.isWord
    have htext := toList_joinSegments_cons first rest
    rw [← heq] at htext
    have hnil : n.text.toList = [] := by rw [hempty]; rfl
    rw [text, segments, htext, hchars] at hnil
    cases hnil
  simp only [parse, trim_text, if_neg hne, hsplit, String.ofList_toList, parseSegment_text,
    mapM_parseSegment]
  exact congrArg Except.ok hname

theorem text_injective : Function.Injective text := by
  intro a b h
  have hparse := parse_text a
  rw [h, parse_text] at hparse
  cases hparse
  rfl

theorem toList_splitChars (cs : List Char) : cs =
    (splitChars cs).1 ++ (splitChars cs).2.flatMap fun piece => ':' :: ':' :: piece := by
  fun_induction splitChars cs with
  | case1 => rfl
  | case2 rest piece pieces hsplit ih =>
      rw [hsplit] at ih
      simpa using ih
  | case3 c rest hcolons piece pieces hsplit ih =>
      rw [hsplit] at ih
      simpa using ih

theorem text_of_parseSegment {name segment : String} {s : Segment}
    (h : parseSegment name segment = .ok s) : s.text = segment := by
  unfold parseSegment at h
  split_ifs at h
  cases h
  rfl

theorem texts_of_mapM {name : String} {pieces : List (List Char)} {segments : List Segment}
    (h : pieces.mapM (fun piece => parseSegment name (String.ofList piece)) = .ok segments) :
    segments.map (·.text.toList) = pieces := by
  induction pieces generalizing segments with
  | nil =>
      cases h
      rfl
  | cons piece rest ih =>
      rw [List.mapM_cons] at h
      cases hfirst : parseSegment name (String.ofList piece) with
      | error e =>
          rw [hfirst] at h
          cases h
      | ok s =>
          rw [hfirst] at h
          cases hrest : rest.mapM (fun piece => parseSegment name (String.ofList piece)) with
          | error e =>
              rw [hrest] at h
              cases h
          | ok more =>
              rw [hrest] at h
              cases h
              rw [List.map_cons, ih hrest, text_of_parseSegment hfirst, String.toList_ofList]

theorem segments_ofSegments (first : Segment) (rest : List Segment) :
    (ofSegments first rest).segments = first :: rest := by
  induction rest generalizing first with
  | nil => rfl
  | cons next rest ih => exact congrArg (first :: ·) (ih next)

/-- The text of a name that was read is what was read, without the blanks around it. -/
theorem text_of_parse {s : String} {n : LogicalName} (h : parse s = .ok n) :
    n.text = Text.trim s := by
  simp only [parse] at h
  split at h
  · cases h
  · cases hfirst : parseSegment (Text.trim s)
        (String.ofList (splitChars (Text.trim s).toList).1) with
    | error e =>
        rw [hfirst] at h
        cases h
    | ok first =>
        rw [hfirst] at h
        cases hrest : (splitChars (Text.trim s).toList).2.mapM
            (fun piece => parseSegment (Text.trim s) (String.ofList piece)) with
        | error e =>
            rw [hrest] at h
            cases h
        | ok rest =>
            rw [hrest] at h
            cases h
            have htexts := texts_of_mapM hrest
            apply String.toList_inj.1
            change (joinSegments (ofSegments first rest).segments).toList = _
            rw [segments_ofSegments, toList_joinSegments_cons, text_of_parseSegment hfirst,
              String.toList_ofList]
            conv_rhs => rw [toList_splitChars (Text.trim s).toList, ← htexts]
            simp [List.flatMap_map]

/-- Beside a name there is one with any other simple name. -/
theorem sibling_text (n : LogicalName) (simple : Segment) :
    n.sibling simple.text = .ok ⟨n.modules, simple⟩ := by
  have hparse := parse_text ⟨n.modules, simple⟩
  rw [sibling, modulePath?]
  cases hmodules : n.modules with
  | nil =>
      rw [hmodules] at hparse
      simpa [text, segments, joinSegments] using hparse
  | cons s rest =>
      rw [hmodules] at hparse
      have htext : (⟨s :: rest, simple⟩ : LogicalName).text =
          s!"{joinSegments (s :: rest)}::{simple.text}" := by
        apply String.toList_inj.1
        change _ = (joinSegments (s :: rest) ++ "::" ++ simple.text).toList
        rw [text, segments, List.cons_append, toList_joinSegments_cons, List.flatMap_append,
          String.toList_append, String.toList_append, toList_joinSegments_cons]
        simp
      rw [htext] at hparse
      exact hparse

end LogicalName

end GrammarForge
