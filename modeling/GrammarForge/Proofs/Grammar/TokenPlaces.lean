import GrammarForge.Proofs.Grammar.RuleSpans
import GrammarForge.Proofs.Grammar.TokenShapes

/-!
# Tokens in a text

A text is scanned to the tokens that stand in it one after the other if there is nothing else in it
but blanks and comments. This is said of the spans alone: what a span cuts out is the text of its
token, which looks as its kind says, and what lies between two spans is a gap. No name can be made
longer at either end. There is one such list of tokens at most, and scanning finds it.
-/

namespace GrammarForge

namespace Span

/-- The text up to the span. -/
def before (s : Span) (text : String) : String := slice ⟨0, s.start⟩ text

/-- The text from the end of the span on. -/
def after (s : Span) (text : String) : String := slice ⟨s.stop, text.utf8ByteSize⟩ text

variable {text : String} {front mid back : List Char}

theorem before_of_toList (h : text.toList = front ++ (mid ++ back)) :
    before ⟨byteLength front, byteLength front + byteLength mid⟩ text = String.ofList front := by
  have hfront : text.toList = [] ++ (front ++ (mid ++ back)) := h
  have hslice := slice_of_toList hfront
  rwa [byteLength, Nat.zero_add] at hslice

theorem after_of_toList (h : text.toList = front ++ (mid ++ back)) :
    after ⟨byteLength front, byteLength front + byteLength mid⟩ text = String.ofList back := by
  have hback : text.toList = (front ++ mid) ++ (back ++ []) := by simp [h]
  have hsize : text.utf8ByteSize = byteLength (front ++ mid) + byteLength back := by
    rw [← byteLength_toList, hback, List.append_nil, byteLength_append]
  rw [after, hsize, ← byteLength_append]
  exact slice_of_toList hback

/-- A place in the text that is not in front of `front` splits the text after it. -/
theorem exists_split {cs : List Char} {pos : Nat} (h : text.toList = front ++ cs)
    (hpos : String.Pos.Raw.IsValid text ⟨pos⟩) (hle : byteLength front ≤ pos) :
    ∃ mid back, cs = mid ++ back ∧ pos = byteLength front + byteLength mid := by
  obtain ⟨s, s', rfl, hs⟩ := String.Pos.Raw.isValid_iff_exists_append.1 hpos
  have hbytes : pos = byteLength s.toList := by
    rw [byteLength_toList, ← String.byteIdx_rawEndPos, ← hs]
  rw [String.toList_append] at h
  rcases List.append_eq_append_iff.1 h with ⟨mid, hfront, hs'⟩ | ⟨mid, hs', hcs⟩
  · cases mid with
    | nil =>
        refine ⟨[], s'.toList, by simpa using hs'.symm, ?_⟩
        rw [hbytes, hfront, List.append_nil]
        rfl
    | cons c mid =>
        rw [hfront, byteLength_append, byteLength, ← hbytes] at hle
        have := Char.utf8Size_pos c
        omega
  · exact ⟨mid, s'.toList, hcs, by rw [hbytes, hs', byteLength_append]⟩

end Span

/-- The token stands in the text at its span, and looks as its kind says. -/
structure Token.StandsIn (t : Token) (text : String) : Prop where
  nonempty : t.span.start < t.span.stop
  inBounds : t.span.stop ≤ text.utf8ByteSize
  isValid : t.span.IsValid text
  text_eq : t.text = t.span.slice text
  shape : t.kind.Shape t.text.toList
  /-- A name starts and ends where no more of it could be. -/
  maximal : t.kind = .ident →
    (∀ c ∈ (t.span.before text).toList.getLast?, Text.isIdentRest c = false) ∧
      ∀ c ∈ (t.span.after text).toList.head?, Text.isIdentRest c = false

/-- The spans from byte `start` up to byte `stop` that the tokens leave free. -/
def gapsBetween (start stop : Nat) : List Token → List Span
  | [] => [⟨start, stop⟩]
  | t :: ts => ⟨start, t.span.start⟩ :: gapsBetween t.span.stop stop ts

/-- The text consists of these tokens, one after the other, and of gaps. -/
structure ConsistsOf (text : String) (ts : List Token) : Prop where
  ordered : ts.Pairwise fun t u => t.span.stop ≤ u.span.start
  standsIn : ∀ t ∈ ts, t.StandsIn text
  gaps : ∀ gap ∈ gapsBetween 0 text.utf8ByteSize ts,
    Gap (gap.after text).toList (gap.slice text).toList

namespace Scan

variable {text : String}

/-- No piece ends in a character of a name where more of a name follows. -/
theorem Fits.exists_last {kind : Option TokenKind} {chars rest : List Char}
    (h : Fits kind chars rest) (hrest : ¬ Boundary rest) :
    ∃ front c, chars = front ++ [c] ∧ Text.isIdentRest c = false := by
  cases kind with
  | none =>
      cases h with
      | blank hc => exact ⟨[], _, rfl, not_identRest_of_blank hc⟩
      | lineComment _ hafter => exact (hrest hafter.boundary).elim
      | blockComment hbody =>
          obtain ⟨body, rfl, -⟩ := endsComment_of_blockComment hbody
          exact ⟨'/' :: '*' :: (body ++ ['*']), '/', by simp, by decide⟩
  | some kind =>
      have hkind : kind ≠ .ident := fun hident => hrest (h.2 hident)
      exact ((kind.spells_iff_shape chars).1 h.1).exists_last hkind

theorem Scans.exists_last {rest cs : List Char} {pos : Nat} {ts : List Token}
    (h : Scans rest pos cs ts) (hrest : ¬ Boundary rest) :
    cs = [] ∨ ∃ front c, cs = front ++ [c] ∧ Text.isIdentRest c = false := by
  have hlast {kind : Option TokenKind} {chars cs : List Char} (hfits : Fits kind chars (cs ++ rest))
      (hcs : cs = [] ∨ ∃ front c, cs = front ++ [c] ∧ Text.isIdentRest c = false) :
      ∃ front c, chars ++ cs = front ++ [c] ∧ Text.isIdentRest c = false := by
    rcases hcs with rfl | ⟨front, c, rfl, hc⟩
    · rw [List.append_nil]
      exact hfits.exists_last hrest
    · exact ⟨chars ++ front, c, (List.append_assoc ..).symm, hc⟩
  induction h with
  | nil => exact .inl rfl
  | skip hfits _ ih => exact .inr (hlast hfits ih)
  | token hfits _ ih => exact .inr (hlast hfits ih)

theorem IsWord.not_boundary {chars : List Char} (h : IsWord chars) (back : List Char) :
    ¬ Boundary (chars ++ back) := by
  have hall := h.all
  obtain ⟨c, rest, rfl, -⟩ := h
  intro hboundary
  have hc := hall c (List.mem_cons_self ..)
  rw [hboundary c rfl] at hc
  cases hc

theorem standsIn_of_scan {us vs : List Token} {t : Token} (h : scan text = .ok (us ++ t :: vs)) :
    t.StandsIn text := by
  rw [scan_iff] at h
  obtain ⟨front, cs, htext, hfront, hcs, -⟩ := h.cut_after
  obtain ⟨blanks, chars, back, rfl, hblanks, hfits, -, hchars, hspan⟩ := hcs.first
  rw [List.append_nil] at hfits hblanks
  have htext' : text.toList = (front ++ blanks) ++ (chars ++ back) := by simp [htext]
  have hspan' : t.span = ⟨byteLength (front ++ blanks),
      byteLength (front ++ blanks) + byteLength chars⟩ := by
    rw [hspan, byteLength_append, Nat.zero_add]
  have hshape : t.kind.Shape chars := (t.kind.spells_iff_shape chars).1 hfits.1
  have hvalid : t.span.IsValid text := by
    rw [hspan']
    exact Span.isValid_of_toList htext'
  constructor
  · rw [hspan']
    exact Nat.lt_add_of_pos_right hfits.byteLength_pos
  · exact hvalid.stop_le
  · exact hvalid
  · rw [hspan', Span.slice_of_toList htext', hchars]
  · rwa [hchars, String.toList_ofList]
  · intro hident
    rw [hspan', Span.before_of_toList htext', Span.after_of_toList htext', String.toList_ofList,
      String.toList_ofList]
    refine ⟨fun c hc => ?_, hfits.2 hident⟩
    rw [hident] at hshape
    have hscanned : Scans (chars ++ back) 0 (front ++ blanks) (us ++ []) := by
      have hfront' : Scans (blanks ++ (chars ++ back)) 0 front us := by simpa using hfront
      exact hfront'.append hblanks
    rcases hscanned.exists_last (IsWord.not_boundary hshape back) with hnil | ⟨more, d, hd, hplain⟩
    · rw [hnil] at hc
      cases hc
    · rw [hd, List.getLast?_concat] at hc
      cases hc
      exact hplain

theorem standsIn_of_mem {ts : List Token} (h : scan text = .ok ts) {t : Token} (ht : t ∈ ts) :
    t.StandsIn text := by
  obtain ⟨us, vs, rfl⟩ := List.append_of_mem ht
  exact standsIn_of_scan h

/-- Between the tokens there is nothing but gaps. -/
theorem gap_of_scans {front cs : List Char} {ts : List Token} (htext : text.toList = front ++ cs)
    (h : Scans [] (byteLength front) cs ts) :
    ∀ gap ∈ gapsBetween (byteLength front) text.utf8ByteSize ts,
      Gap (gap.after text).toList (gap.slice text).toList := by
  induction ts generalizing front cs with
  | nil =>
      intro gap hgap
      have htext' : text.toList = front ++ (cs ++ []) := by simpa using htext
      have hsize : text.utf8ByteSize = byteLength front + byteLength cs := by
        rw [← byteLength_toList, htext, byteLength_append]
      obtain rfl := List.mem_singleton.1 hgap
      rw [hsize, Span.slice_of_toList htext', Span.after_of_toList htext', String.toList_ofList,
        String.toList_ofList]
      exact (scans_nil_iff [] _ cs).1 h
  | cons t ts ih =>
      obtain ⟨blanks, chars, back, rfl, hblanks, hfits, hback, -, hspan⟩ := h.first
      intro gap hgap
      rw [gapsBetween, hspan] at hgap
      rcases List.mem_cons.1 hgap with rfl | hgap
      · rw [Span.slice_of_toList htext, Span.after_of_toList htext, String.toList_ofList,
          String.toList_ofList]
        rw [List.append_nil] at hblanks
        exact (scans_nil_iff _ _ blanks).1 hblanks
      · have htext' : text.toList = (front ++ blanks ++ chars) ++ back := by simp [htext]
        have hlength : byteLength (front ++ blanks ++ chars) =
            byteLength front + byteLength blanks + byteLength chars := by
          rw [byteLength_append, byteLength_append]
        rw [← hlength] at hback hgap
        exact ih htext' hback gap hgap

theorem fits_of_standsIn {t : Token} {front chars back : List Char}
    (htext : text.toList = front ++ (chars ++ back))
    (hspan : t.span = ⟨byteLength front, byteLength front + byteLength chars⟩)
    (h : t.StandsIn text) : t.text = String.ofList chars ∧ Fits (some t.kind) chars back := by
  have hchars : t.text = String.ofList chars := by
    rw [h.text_eq, hspan, Span.slice_of_toList htext]
  have hshape := h.shape
  rw [hchars, String.toList_ofList] at hshape
  refine ⟨hchars, (t.kind.spells_iff_shape chars).2 hshape, fun hident => ?_⟩
  have hafter := (h.maximal hident).2
  rwa [hspan, Span.after_of_toList htext, String.toList_ofList] at hafter

theorem scans_of_standsIn {front cs : List Char} {ts : List Token}
    (htext : text.toList = front ++ cs)
    (hordered : ts.Pairwise fun t u => t.span.stop ≤ u.span.start)
    (hfirst : ∀ t ∈ ts, byteLength front ≤ t.span.start) (hstand : ∀ t ∈ ts, t.StandsIn text)
    (hgaps : ∀ gap ∈ gapsBetween (byteLength front) text.utf8ByteSize ts,
      Gap (gap.after text).toList (gap.slice text).toList) :
    Scans [] (byteLength front) cs ts := by
  induction ts generalizing front cs with
  | nil =>
      have htext' : text.toList = front ++ (cs ++ []) := by simpa using htext
      have hsize : text.utf8ByteSize = byteLength front + byteLength cs := by
        rw [← byteLength_toList, htext, byteLength_append]
      have hgap := hgaps _ (List.mem_singleton_self _)
      rw [hsize, Span.slice_of_toList htext', Span.after_of_toList htext', String.toList_ofList,
        String.toList_ofList] at hgap
      exact (scans_nil_iff [] _ cs).2 hgap
  | cons t ts ih =>
      obtain ⟨hbehind, hordered⟩ := List.pairwise_cons.1 hordered
      have ht := hstand t (List.mem_cons_self ..)
      obtain ⟨blanks, cs, rfl, hstart⟩ :=
        Span.exists_split htext ht.isValid.1 (hfirst t (List.mem_cons_self ..))
      rw [← List.append_assoc] at htext
      have hle : byteLength (front ++ blanks) ≤ t.span.stop := by
        rw [byteLength_append, ← hstart]
        exact ht.nonempty.le
      obtain ⟨chars, back, rfl, hstop⟩ := Span.exists_split htext ht.isValid.2 hle
      have hspan : t.span = ⟨byteLength (front ++ blanks),
          byteLength (front ++ blanks) + byteLength chars⟩ := by
        rw [← hstop, byteLength_append, ← hstart]
      obtain ⟨hchars, hfits⟩ := fits_of_standsIn htext hspan ht
      have hblanks : Scans (chars ++ back ++ []) (byteLength front) blanks [] := by
        have hgap := hgaps _ (List.mem_cons_self ..)
        have htext' : text.toList = front ++ (blanks ++ (chars ++ back)) := by simpa using htext
        rw [hstart, Span.slice_of_toList htext', Span.after_of_toList htext', String.toList_ofList,
          String.toList_ofList] at hgap
        rw [List.append_nil]
        exact (scans_nil_iff _ _ blanks).2 hgap
      have hend : t.span.stop = byteLength (front ++ blanks ++ chars) := by
        rw [hspan, byteLength_append (front ++ blanks)]
      have hback : Scans [] (byteLength (front ++ blanks ++ chars)) back ts := by
        apply ih (by simpa using htext) hordered
        · rw [← hend]
          exact hbehind
        · exact fun u hu => hstand u (List.mem_cons_of_mem _ hu)
        · rw [← hend]
          exact fun gap hgap => hgaps gap (List.mem_cons_of_mem _ hgap)
      have htoken : Scans [] (byteLength front + byteLength blanks) (chars ++ back) (t :: ts) := by
        obtain ⟨kind, word, span⟩ := t
        obtain rfl : word = _ := hchars
        obtain rfl : span = _ := hspan
        have hfits' : Fits (some kind) chars (back ++ []) := by rwa [List.append_nil]
        rw [byteLength_append _ chars] at hback
        rw [← byteLength_append]
        exact .token hfits' hback
      exact hblanks.append htoken

/-- A text is scanned to the tokens that it consists of, apart from blanks and comments. -/
theorem scan_eq_ok_iff_consistsOf (text : String) (ts : List Token) :
    scan text = .ok ts ↔ ConsistsOf text ts := by
  constructor
  · intro h
    have hscans := (scan_iff text ts).1 h
    have htext : text.toList = [] ++ text.toList := rfl
    exact ⟨hscans.ordered.1, fun t ht => standsIn_of_mem h ht, gap_of_scans htext hscans⟩
  · intro h
    have htext : text.toList = [] ++ text.toList := rfl
    exact (scan_iff text ts).2
      (scans_of_standsIn htext h.ordered (fun t _ => Nat.zero_le _) h.standsIn h.gaps)

end Scan

end GrammarForge
