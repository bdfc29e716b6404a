import GrammarForge.Proofs.Grammar.Faults
import GrammarForge.Proofs.Grammar.TokenPlaces
import Mathlib

/-!
# Errors point into the text

The labels of an error about a text are places in the text. What stands there is what the error is
about: the characters at which scanning stops, a token, a brace, or the end of the text.
-/

namespace GrammarForge

/-- The span is within the text, and its ends are between characters. -/
structure Span.IsIn (s : Span) (text : String) : Prop where
  ordered : s.start ≤ s.stop
  inBounds : s.stop ≤ text.utf8ByteSize
  isValid : s.IsValid text

/-- The text up to the span can be scanned. With what the span covers, scanning fails. -/
def Scan.StopsAt (text : String) (e : GrammarError) (s : Span) : Prop :=
  (∃ ts, scan (s.before text) = .ok ts) ∧ scan (s.before text ++ s.slice text) = .error e

/-- A token of the text is this brace. -/
def IsBraceAt (text : String) (c : Char) (s : Span) : Prop :=
  ∃ ts, Scan.scan text = .ok ts ∧
    ∃ t ∈ ts, t.kind.brace? = some c ∧ t.text = String.singleton c ∧ t.span = s

/-- The error is about what stands in the text where its labels are. A syntax error names a token of
the text, or the end of it. -/
def GrammarError.IsAbout (text : String) : GrammarError → Prop
  | unexpectedChar found span =>
    Scan.StopsAt text (unexpectedChar found span) span ∧ span.slice text = String.singleton found
  | unterminatedString span =>
    Scan.StopsAt text (unterminatedString span) span ∧
      (span.slice text = "\"" ∨ span.slice text = "'")
  | unterminatedComment span =>
    Scan.StopsAt text (unterminatedComment span) span ∧ span.slice text = "/*"
  | unexpectedToken found _ => ∃ ts, Scan.scan text = .ok ts ∧ found ∈ ts
  | unexpectedEnd length _ => length = text.utf8ByteSize
  | unclosedBrace opening span => IsBraceAt text opening span
  | unmatchedBrace closing span => IsBraceAt text closing span
  | mismatchedBrace opening openingSpan closing closingSpan =>
    IsBraceAt text opening openingSpan ∧ IsBraceAt text closing closingSpan ∧
      openingSpan.stop ≤ closingSpan.start
  | unreadable _ _ => False
  | noFactory _ => False

/-- The error and its labels fit the text. -/
def GrammarError.PointsInto (e : GrammarError) (text : String) : Prop :=
  (∀ l ∈ e.labels, l.span.IsIn text) ∧ e.IsAbout text

variable {text : String}

namespace Scan

theorem stopsAt {front more back : List Char} {c : Char} {ts : List Token} {fault : Fault}
    (htext : text.toList = front ++ (c :: more ++ back))
    (hfront : Scans (c :: more ++ back) 0 front ts) (hfault : nextPiece c more = .error fault) :
    let s : Span := ⟨byteLength front, byteLength front + byteLength (c :: more)⟩
    s.IsIn text ∧ StopsAt text (fault.toError (byteLength front)) s ∧
      s.slice text = String.ofList (c :: more) := by
  intro s
  have hvalid : s.IsValid text := Span.isValid_of_toList htext
  have hbefore : s.before text = String.ofList front := Span.before_of_toList htext
  have hslice : s.slice text = String.ofList (c :: more) := Span.slice_of_toList htext
  refine ⟨⟨Nat.le_add_right .., hvalid.stop_le, hvalid⟩, ⟨⟨ts, ?_⟩, ?_⟩, hslice⟩
  · rw [hbefore, scan_iff, String.toList_ofList]
    exact hfront.replace endsLine_nil
  · -- The pieces in front depend on `c` alone of what comes after them.
    have hcut : Scans (c :: more) 0 front ts :=
      hfront.of_fits fun _ _ hfits => hfits.of_head?_eq rfl
    rw [hbefore, hslice, scan, String.toList_append, String.toList_ofList, String.toList_ofList]
    refine scanFrom_eq_error_iff.2 ⟨front, c, more, ts, fault, rfl, hcut, hfault, ?_⟩
    rw [Nat.zero_add]

theorem pointsInto_of_scan {e : GrammarError} (h : scan text = .error e) : e.PointsInto text := by
  obtain ⟨front, c, rest, ts, fault, htext, hfront, hpiece, rfl⟩ := scanFrom_eq_error_iff.1 h
  obtain ⟨more, back, rfl, hat, hfault⟩ := nextPiece_eq_error hpiece
  obtain ⟨hin, hstops, hslice⟩ := stopsAt htext hfront hfault
  rw [Nat.zero_add]
  cases fault with
  | unexpectedChar found =>
      obtain ⟨rfl, rfl⟩ : c = found ∧ more = [] := by simpa using hat.1
      exact ⟨List.forall_mem_singleton.2 hin, hstops, hslice⟩
  | unterminatedString =>
      rcases hat with hchars | hchars <;> rw [hchars] at hin hstops hslice
      · exact ⟨List.forall_mem_singleton.2 hin, hstops, .inl hslice⟩
      · exact ⟨List.forall_mem_singleton.2 hin, hstops, .inr hslice⟩
  | unterminatedComment =>
      have hchars : c :: more = ['/', '*'] := hat
      rw [hchars] at hin hstops hslice
      exact ⟨List.forall_mem_singleton.2 hin, hstops, hslice⟩

end Scan

theorem Token.StandsIn.isIn {t : Token} (h : t.StandsIn text) : t.span.IsIn text :=
  ⟨h.nonempty.le, h.inBounds, h.isValid⟩

/-- A brace looks like itself. -/
theorem TokenKind.Shape.of_brace {kind : TokenKind} {chars : List Char} (h : kind.Shape chars)
    {c : Char} (hc : kind.brace? = some c) : chars = [c] := by
  cases kind <;> cases hc <;>
    · obtain ⟨_, hd, rfl⟩ := h
      cases hd
      rfl

theorem isBraceAt_of_mem {ts : List Token} (h : Scan.scan text = .ok ts) {t : Token} (ht : t ∈ ts)
    {c : Char} (hc : t.kind.brace? = some c) : IsBraceAt text c t.span := by
  have htext : t.text = String.singleton c := by
    apply String.toList_injective
    rw [(Scan.standsIn_of_mem h ht).shape.of_brace hc, String.toList_singleton]
  exact ⟨ts, h, t, ht, hc, htext, rfl⟩

theorem BraceMatcher.IsFault.pointsInto {ts : List Token} (h : Scan.scan text = .ok ts)
    {e : GrammarError} (he : IsFault ts e) : e.PointsInto text := by
  have hin {t : Token} (ht : t ∈ ts) : t.span.IsIn text := (Scan.standsIn_of_mem h ht).isIn
  cases he with
  | unclosed ht hc => exact ⟨List.forall_mem_singleton.2 (hin ht), isBraceAt_of_mem h ht hc⟩
  | unmatched ht hc => exact ⟨List.forall_mem_singleton.2 (hin ht), isBraceAt_of_mem h ht hc⟩
  | @mismatched t u _ _ hsub hc hd =>
      have ht : t ∈ ts := hsub.subset (by simp)
      have hu : u ∈ ts := hsub.subset (by simp)
      have hordered := ((Scan.scan_iff text ts).1 h).ordered.1
      have hbefore := List.pairwise_iff_forall_sublist.1 hordered hsub
      refine ⟨?_, isBraceAt_of_mem h ht hc, isBraceAt_of_mem h hu hd, hbefore⟩
      exact List.forall_mem_cons.2 ⟨hin ht, List.forall_mem_singleton.2 (hin hu)⟩

theorem Span.isIn_end (text : String) : Span.IsIn ⟨text.utf8ByteSize, text.utf8ByteSize⟩ text where
  ordered := le_refl _
  inBounds := le_refl _
  isValid := ⟨String.Pos.Raw.isValid_rawEndPos, String.Pos.Raw.isValid_rawEndPos⟩

theorem IsSyntaxFault.pointsInto {ts : List Token} (h : Scan.scan text = .ok ts) {e : GrammarError}
    (he : IsSyntaxFault text.utf8ByteSize ts e) : e.PointsInto text := by
  cases he with
  | token ht =>
      exact ⟨List.forall_mem_singleton.2 (Scan.standsIn_of_mem h ht).isIn, ts, h, ht⟩
  | atEnd => exact ⟨List.forall_mem_singleton.2 (Span.isIn_end text), rfl⟩

namespace Environment

end Environment

end GrammarForge
