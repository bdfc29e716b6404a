import GrammarForge.Proofs.Grammar.PrintedText

/-!
# Scanning is local

What a text is scanned to, as a relation between its characters and its tokens: the text consists of
tokens and of blanks and comments between them, and nothing continues a piece where the next one
begins. A piece depends on the text after it only by the first character there. So a text that was
scanned may be cut at the borders of its tokens, moved to another place and continued on a new line.
-/

namespace GrammarForge

/-! ## Moving tokens -/

/-- The same bytes after `k` more bytes. -/
def Span.shift (k : Nat) (s : Span) : Span := ⟨s.start + k, s.stop + k⟩

/-- The same token after `k` more bytes. -/
def Token.shift (k : Nat) (t : Token) : Token := { t with span := t.span.shift k }

theorem byteLength_eq_utf8Len (chars : List Char) : byteLength chars = String.utf8Len chars := by
  rw [← String.utf8ByteSize_ofList]
  induction chars with
  | nil => rfl
  | cons c chars ih =>
      rw [byteLength, ih, String.ofList_cons, String.utf8ByteSize_append,
        String.utf8ByteSize_singleton]

theorem byteLength_toList (text : String) : byteLength text.toList = text.utf8ByteSize := by
  rw [byteLength_eq_utf8Len, ← String.utf8ByteSize_ofList, String.ofList_toList]

namespace Scan

/-! ## Pieces -/

/-- What comes here starts on a new line, or there is nothing more. -/
def EndsLine (rest : List Char) : Prop := ∀ c ∈ rest.head?, c = '\n'

theorem endsLine_nil : EndsLine [] := by
  intro c hc
  cases hc

theorem endsLine_cons (rest : List Char) : EndsLine ('\n' :: rest) := by
  intro c hc
  cases hc
  rfl

theorem EndsLine.boundary {rest : List Char} (h : EndsLine rest) : Boundary rest := by
  intro c hc
  rw [h c hc]
  decide

/-- The characters are a blank or a comment in front of `after`. -/
inductive Skips : List Char → List Char → Prop
  | blank {c : Char} {after : List Char} : Text.isAsciiBlank c = true → Skips [c] after
  | lineComment {line after : List Char} :
      '\n' ∉ line → EndsLine after → Skips ('/' :: '/' :: line) after
  | blockComment {body after : List Char} :
      blockComment body = some (body, []) → Skips ('/' :: '*' :: body) after

/-- The characters are a piece of this kind in front of `after`. -/
def Fits : Option TokenKind → List Char → List Char → Prop
  | none, chars, after => Skips chars after
  | some kind, chars, after => kind.Spells chars ∧ (kind = .ident → Boundary after)

theorem blockComment_ne_nil {cs body after : List Char} (h : blockComment cs = some (body, after)) :
    body ≠ [] := by
  unfold blockComment at h
  split at h
  · cases h
  · cases h
    simp
  · obtain ⟨⟨b, a⟩, -, heq⟩ := Option.map_eq_some_iff.1 h
    cases heq
    simp

/-- The end of a comment does not depend on the text after it. -/
theorem blockComment_front {cs body after : List Char} (h : blockComment cs = some (body, after))
    (other : List Char) : blockComment (body ++ other) = some (body, other) := by
  fun_induction blockComment cs generalizing body with
  | case1 => cases h
  | case2 rest =>
      cases h
      rfl
  | case3 c rest hopen ih =>
      obtain ⟨⟨b, a⟩, hb, heq⟩ := Option.map_eq_some_iff.1 h
      cases heq
      have hrest := blockComment_append hb
      have hother : ∀ tail, c = '*' → b ++ other = '/' :: tail → False := by
        intro tail hc htail
        obtain ⟨d, b, rfl⟩ := List.exists_cons_of_ne_nil (blockComment_ne_nil hb)
        cases htail
        exact hopen _ hc hrest.symm
      rw [List.cons_append, blockComment.eq_3 c (b ++ other) hother, ih hb]
      rfl

/-- The end of a literal does not depend on the text after it. -/
theorem quotedBody_front {quote : Char} {cs body after : List Char}
    (h : quotedBody quote cs = some (body, after)) (other : List Char) :
    quotedBody quote (body ++ other) = some (body, other) := by
  fun_induction quotedBody quote cs generalizing body with
  | case1 => cases h
  | case2 => cases h
  | case3 => cases h
  | case4 c rest ih =>
      obtain ⟨⟨b, a⟩, hb, heq⟩ := Option.map_eq_some_iff.1 h
      cases heq
      rw [List.cons_append, List.cons_append, quotedBody_escaped, ih hb]
      rfl
  | case5 rest hn hlast hescape =>
      cases h
      simp [quotedBody_plain hn (ne_backslash hlast hescape)]
  | case6 c rest hn hlast hescape hc ih =>
      obtain ⟨⟨b, a⟩, hb, heq⟩ := Option.map_eq_some_iff.1 h
      cases heq
      rw [List.cons_append, quotedBody_plain hn (ne_backslash hlast hescape), if_neg hc, ih hb]
      rfl

/-! ## The piece at the front -/

theorem nextPiece_blank {c : Char} (h : Text.isAsciiBlank c = true) (rest : List Char) :
    nextPiece c rest = .ok ⟨none, [c], rest⟩ := if_pos h

theorem nextPiece_lineComment {line : List Char} (hline : '\n' ∉ line) {after : List Char}
    (hafter : EndsLine after) :
    nextPiece '/' ('/' :: (line ++ after)) = .ok ⟨none, '/' :: '/' :: line, after⟩ := by
  have hplain : ∀ c ∈ line, decide (c ≠ '\n') = true := by
    intro c hc
    simpa using ne_of_mem_of_not_mem hc hline
  have htake : (line ++ after).takeWhile (· ≠ '\n') = line := by
    rw [List.takeWhile_append_of_pos hplain]
    cases after with
    | nil => simp
    | cons c after => simp [hafter c rfl]
  have hdrop : (line ++ after).dropWhile (· ≠ '\n') = after := by
    rw [List.dropWhile_append_of_pos hplain]
    cases after with
    | nil => rfl
    | cons c after => simp [hafter c rfl]
  have hpiece : nextPiece '/' ('/' :: (line ++ after)) =
      .ok ⟨none, '/' :: '/' :: (line ++ after).takeWhile (· ≠ '\n'),
        (line ++ after).dropWhile (· ≠ '\n')⟩ := rfl
  rw [hpiece, htake, hdrop]

theorem nextPiece_blockComment {comment body after : List Char}
    (h : blockComment comment = some (body, after)) :
    nextPiece '/' ('*' :: comment) = .ok ⟨none, '/' :: '*' :: body, after⟩ := by
  simp [nextPiece, Text.isAsciiBlank, h]

theorem nextPiece_quoted {quote : Char} (hquote : quote = '"' ∨ quote = '\'')
    {rest body after : List Char} (h : quotedBody quote rest = some (body, after)) :
    nextPiece quote rest = .ok ⟨some .quoted, quote :: body, after⟩ := by
  rcases hquote with rfl | rfl <;> simp [nextPiece, Text.isAsciiBlank, TokenKind.ofChar?, h]

theorem boundary_dropWhile (rest : List Char) : Boundary (rest.dropWhile Text.isIdentRest) := by
  intro c hc
  have hnot := List.head?_dropWhile_not Text.isIdentRest rest
  rw [Option.mem_def.1 hc] at hnot
  simpa using hnot

theorem endsLine_dropWhile (rest : List Char) : EndsLine (rest.dropWhile (· ≠ '\n')) := by
  intro c hc
  have hnot := List.head?_dropWhile_not (· ≠ '\n') rest
  rw [Option.mem_def.1 hc] at hnot
  simpa using hnot

theorem fits_of_nextPiece {c : Char} {rest : List Char} {p : Piece} (h : nextPiece c rest = .ok p) :
    Fits p.kind p.chars p.rest := by
  have hspells (kind : TokenKind) (hk : p.kind = some kind) := nextPiece_spells h hk
  unfold nextPiece at h
  split at h
  · cases h
    exact .blank ‹_›
  · split at h
    · cases h
      refine .lineComment (fun hmem => ?_) (endsLine_dropWhile _)
      simpa using List.mem_takeWhile_imp hmem
    · split at h <;> cases h
      refine .blockComment ?_
      have hself := blockComment_front ‹_› []
      rwa [List.append_nil] at hself
    · cases h
      exact ⟨hspells _ rfl, nofun⟩
    · split at h
      · rename_i kind hkind
        cases h
        refine ⟨hspells _ rfl, ?_⟩
        rintro rfl
        unfold TokenKind.ofChar? at hkind
        split at hkind <;> cases hkind
      · split at h
        · split at h <;> cases h
          exact ⟨hspells _ rfl, nofun⟩
        · split at h <;> cases h
          exact ⟨hspells _ rfl, fun _ => boundary_dropWhile _⟩

/-- Characters that fit are the next piece. -/
theorem nextPiece_of_fits {kind : Option TokenKind} {chars after : List Char}
    (h : Fits kind chars after) : ∃ c rest, chars ++ after = c :: rest ∧
      nextPiece c rest = .ok ⟨kind, chars, after⟩ := by
  cases kind with
  | none =>
      cases h with
      | blank hc => exact ⟨_, _, rfl, nextPiece_blank hc after⟩
      | lineComment hline hafter => exact ⟨_, _, rfl, nextPiece_lineComment hline hafter⟩
      | blockComment hbody =>
          exact ⟨_, _, rfl, nextPiece_blockComment (blockComment_front hbody after)⟩
  | some kind =>
      obtain ⟨hspells, hboundary⟩ := h
      unfold TokenKind.Spells at hspells
      split at hspells
      · obtain ⟨c, tail, rfl, hc, htail⟩ := hspells
        exact ⟨c, tail ++ after, rfl, nextPiece_word_front hc htail (hboundary rfl)⟩
      · obtain ⟨quote, body, hquote, rfl, hbody⟩ := hspells
        exact ⟨quote, body ++ after, rfl, nextPiece_quoted hquote (quotedBody_front hbody after)⟩
      · cases hspells
        exact ⟨_, _, rfl, rfl⟩
      · obtain ⟨c, rfl, hc⟩ := hspells
        exact ⟨c, after, rfl, nextPiece_punctuation hc after⟩

/-- Whether a piece fits depends on one character after it. -/
theorem Fits.of_head?_eq {kind : Option TokenKind} {chars after after' : List Char}
    (h : Fits kind chars after) (hhead : after'.head? = after.head?) : Fits kind chars after' := by
  cases kind with
  | none =>
      cases h with
      | blank hc => exact .blank hc
      | lineComment hline hafter => exact .lineComment hline (by rwa [EndsLine, hhead])
      | blockComment hbody => exact .blockComment hbody
  | some kind =>
      refine ⟨h.1, fun hkind => ?_⟩
      rw [Boundary, hhead]
      exact h.2 hkind

theorem Fits.of_endsLine {kind : Option TokenKind} {chars after after' : List Char}
    (h : Fits kind chars after) (hafter' : EndsLine after') : Fits kind chars after' := by
  cases kind with
  | none =>
      cases h with
      | blank hc => exact .blank hc
      | lineComment hline _ => exact .lineComment hline hafter'
      | blockComment hbody => exact .blockComment hbody
  | some kind => exact ⟨h.1, fun _ => hafter'.boundary⟩

theorem Fits.byteLength_pos {kind : Option TokenKind} {chars after : List Char}
    (h : Fits kind chars after) : 0 < byteLength chars := by
  obtain ⟨c, rest, -, hpiece⟩ := nextPiece_of_fits h
  obtain ⟨d, chars, rfl⟩ := List.exists_cons_of_ne_nil (nextPiece_chars_ne_nil hpiece)
  exact Nat.add_pos_left (Char.utf8Size_pos d) _

/-! ## Pieces one after the other -/

/-- In front of `rest`, the characters from byte `pos` on are these tokens, with blanks and comments
between them. -/
inductive Scans (rest : List Char) : Nat → List Char → List Token → Prop
  | nil {pos : Nat} : Scans rest pos [] []
  | skip {pos : Nat} {chars cs : List Char} {ts : List Token} : Fits none chars (cs ++ rest) →
      Scans rest (pos + byteLength chars) cs ts → Scans rest pos (chars ++ cs) ts
  | token {pos : Nat} {kind : TokenKind} {chars cs : List Char} {ts : List Token} :
      Fits (some kind) chars (cs ++ rest) → Scans rest (pos + byteLength chars) cs ts →
      Scans rest pos (chars ++ cs)
        (⟨kind, String.ofList chars, ⟨pos, pos + byteLength chars⟩⟩ :: ts)

/-- A text is scanned to the tokens that it consists of. -/
theorem scanFrom_iff (pos : Nat) (cs : List Char) (ts : List Token) :
    scanFrom pos cs = .ok ts ↔ Scans [] pos cs ts := by
  constructor
  · intro h
    fun_induction scanFrom pos cs generalizing ts with
    | case1 =>
        cases h
        exact .nil
    | case2 => cases h
    | case3 => cases h
    | case4 pos c rest piece hpiece _ tokens hrest hkind ih =>
        cases h
        have hfits := fits_of_nextPiece hpiece
        rw [hkind, ← List.append_nil piece.rest] at hfits
        rw [← nextPiece_append hpiece]
        exact .skip hfits (ih _ hrest)
    | case5 pos c rest piece hpiece _ tokens hrest kind hkind ih =>
        cases h
        have hfits := fits_of_nextPiece hpiece
        rw [hkind, ← List.append_nil piece.rest] at hfits
        rw [← nextPiece_append hpiece]
        exact .token hfits (ih _ hrest)
  · intro h
    induction h with
    | nil => rw [scanFrom]
    | skip hfits _ ih =>
        rw [List.append_nil] at hfits
        obtain ⟨c, rest, hsplit, hpiece⟩ := nextPiece_of_fits hfits
        rw [hsplit, scanFrom_piece hpiece, ih]
        rfl
    | token hfits _ ih =>
        rw [List.append_nil] at hfits
        obtain ⟨c, rest, hsplit, hpiece⟩ := nextPiece_of_fits hfits
        rw [hsplit, scanFrom_piece hpiece, ih]
        rfl

theorem scan_iff (text : String) (ts : List Token) :
    scan text = .ok ts ↔ Scans [] 0 text.toList ts := scanFrom_iff 0 text.toList ts

namespace Scans

variable {rest cs ds : List Char} {pos : Nat} {ts us : List Token}

theorem single {kind : TokenKind} {chars : List Char} (h : Fits (some kind) chars rest) (pos : Nat) :
    Scans rest pos chars [⟨kind, String.ofList chars, ⟨pos, pos + byteLength chars⟩⟩] := by
  have hfits : Fits (some kind) chars ([] ++ rest) := h
  have hnil : Scans rest (pos + byteLength chars) [] [] := .nil
  have htoken := Scans.token hfits hnil
  rwa [List.append_nil] at htoken

theorem of_fits (h : Scans rest pos cs ts) {rest' : List Char}
    (hrest' : ∀ kind chars, Fits kind chars rest → Fits kind chars rest') :
    Scans rest' pos cs ts := by
  have hafter {kind : Option TokenKind} {chars cs : List Char}
      (hfits : Fits kind chars (cs ++ rest)) : Fits kind chars (cs ++ rest') := by
    cases cs with
    | nil => exact hrest' kind chars hfits
    | cons c cs => exact hfits.of_head?_eq rfl
  induction h with
  | nil => exact .nil
  | skip hfits _ ih => exact .skip (hafter hfits) ih
  | token hfits _ ih => exact .token (hafter hfits) ih

/-- Whatever ends the line may come after a text that was scanned up to its end. -/
theorem replace (h : Scans rest pos cs ts) {rest' : List Char} (hrest' : EndsLine rest') :
    Scans rest' pos cs ts := h.of_fits fun _ _ hfits => hfits.of_endsLine hrest'

theorem append (h : Scans (ds ++ rest) pos cs ts)
    (h' : Scans rest (pos + byteLength cs) ds us) : Scans rest pos (cs ++ ds) (ts ++ us) := by
  induction h with
  | nil => exact h'
  | skip hfits _ ih =>
      rw [byteLength_append, ← Nat.add_assoc] at h'
      rw [← List.append_assoc] at hfits
      rw [List.append_assoc]
      exact .skip hfits (ih h')
  | token hfits _ ih =>
      rw [byteLength_append, ← Nat.add_assoc] at h'
      rw [← List.append_assoc] at hfits
      rw [List.append_assoc, List.cons_append]
      exact .token hfits (ih h')

/-- The same text further on. -/
theorem shift (h : Scans rest pos cs ts) (k : Nat) :
    Scans rest (pos + k) cs (ts.map (Token.shift k)) := by
  induction h with
  | nil => exact .nil
  | skip hfits _ ih =>
      rw [Nat.add_right_comm] at ih
      exact .skip hfits ih
  | token hfits _ ih =>
      rw [Nat.add_right_comm] at ih
      rw [List.map_cons, Token.shift, Span.shift, Nat.add_right_comm]
      exact .token hfits ih

/-- The same text further ahead. -/
theorem unshift {k : Nat} (h : Scans rest (pos + k) cs ts) :
    ∃ us, ts = us.map (Token.shift k) ∧ Scans rest pos cs us := by
  generalize hfrom : pos + k = from' at h
  induction h generalizing pos with
  | nil => exact ⟨[], rfl, .nil⟩
  | skip hfits _ ih =>
      subst hfrom
      obtain ⟨us, rfl, hus⟩ := ih (Nat.add_right_comm ..)
      exact ⟨us, rfl, .skip hfits hus⟩
  | token hfits _ ih =>
      subst hfrom
      obtain ⟨us, rfl, hus⟩ := ih (Nat.add_right_comm ..)
      refine ⟨_, ?_, .token hfits hus⟩
      rw [List.map_cons, Token.shift, Span.shift, Nat.add_right_comm]

/-- The first token of a text, the blanks and comments in front of it and the text after it. -/
theorem first {t : Token} (h : Scans rest pos cs (t :: ts)) :
    ∃ blanks chars back, cs = blanks ++ (chars ++ back) ∧
      Scans (chars ++ back ++ rest) pos blanks [] ∧ Fits (some t.kind) chars (back ++ rest) ∧
      Scans rest (pos + byteLength blanks + byteLength chars) back ts ∧
      t.text = String.ofList chars ∧
      t.span = ⟨pos + byteLength blanks, pos + byteLength blanks + byteLength chars⟩ := by
  generalize htokens : t :: ts = tokens at h
  induction h with
  | nil => cases htokens
  | skip hfits _ ih =>
      obtain ⟨blanks, chars, back, rfl, hblanks, hchars, hback, htext, hspan⟩ := ih htokens
      simp only [Nat.add_assoc, ← byteLength_append] at hback hspan ⊢
      rw [List.append_assoc] at hfits
      exact ⟨_, chars, back, (List.append_assoc ..).symm, .skip hfits hblanks, hchars, hback, htext,
        hspan⟩
  | @token _ _ chars cs _ hfits hcs _ =>
      cases htokens
      exact ⟨[], chars, cs, rfl, .nil, hfits, hcs, rfl, rfl⟩

theorem uncons {t : Token} (h : Scans rest pos cs (t :: ts)) :
    ∃ blanks chars back, cs = blanks ++ (chars ++ back) ∧
      Scans (chars ++ back ++ rest) pos blanks [] ∧
      Scans (back ++ rest) (pos + byteLength blanks) chars [t] ∧
      Scans rest (pos + byteLength blanks + byteLength chars) back ts ∧
      t.span = ⟨pos + byteLength blanks, pos + byteLength blanks + byteLength chars⟩ := by
  obtain ⟨blanks, chars, back, hcs, hblanks, hfits, hback, htext, hspan⟩ := h.first
  have ht : t = ⟨t.kind, String.ofList chars,
      ⟨pos + byteLength blanks, pos + byteLength blanks + byteLength chars⟩⟩ := by
    rw [← htext, ← hspan]
  have hchars : Scans (back ++ rest) (pos + byteLength blanks) chars [t] := by
    rw [ht]
    exact .single hfits _
  exact ⟨blanks, chars, back, hcs, hblanks, hchars, hback, hspan⟩

/-- A text can be cut after any of its tokens. -/
theorem cut_after (h : Scans rest pos cs (ts ++ us)) :
    ∃ front back, cs = front ++ back ∧ Scans (back ++ rest) pos front ts ∧
      Scans rest (pos + byteLength front) back us ∧
      Derived.lastStop pos ts = pos + byteLength front := by
  induction ts generalizing pos cs with
  | nil => exact ⟨[], cs, rfl, .nil, h, rfl⟩
  | cons t ts ih =>
      obtain ⟨blanks, chars, cs, rfl, hblanks, hchars, hcs, hspan⟩ := h.uncons
      obtain ⟨front, back, rfl, hfront, hback, hstop⟩ := ih hcs
      rw [List.append_assoc] at hchars
      have hblanks' : Scans (chars ++ front ++ (back ++ rest)) pos blanks [] := by
        simpa using hblanks
      refine ⟨blanks ++ (chars ++ front), back, by simp, hblanks'.append (hchars.append hfront),
        ?_, ?_⟩
      · simpa [byteLength_append, Nat.add_assoc] using hback
      · simpa [byteLength_append, Nat.add_assoc, hspan] using hstop

/-- A text can be cut in front of any of its tokens. -/
theorem cut_before {t : Token} (h : Scans rest pos cs (ts ++ t :: us)) :
    ∃ front back, cs = front ++ back ∧ Scans (back ++ rest) pos front ts ∧
      Scans rest (pos + byteLength front) back (t :: us) ∧
      t.span.start = pos + byteLength front := by
  obtain ⟨front, cs, rfl, hfront, hcs, -⟩ := h.cut_after
  obtain ⟨blanks, chars, back, rfl, hblanks, hchars, hback, hspan⟩ := hcs.uncons
  rw [List.append_assoc] at hfront
  refine ⟨front ++ blanks, chars ++ back, by simp, ?_, ?_, ?_⟩
  · simpa using hfront.append hblanks
  · simpa [byteLength_append, Nat.add_assoc] using hchars.append hback
  · simp [hspan, byteLength_append, Nat.add_assoc]

theorem byteLength_pos {t : Token} (h : Scans rest pos cs (t :: ts)) : 0 < byteLength cs := by
  cases h with
  | skip hfits _ =>
      rw [byteLength_append]
      exact Nat.add_pos_left hfits.byteLength_pos _
  | token hfits _ =>
      rw [byteLength_append]
      exact Nat.add_pos_left hfits.byteLength_pos _

/-- No more tokens are found than there are bytes. -/
theorem length_le (h : Scans rest pos cs ts) : ts.length ≤ byteLength cs := by
  induction h with
  | nil => exact Nat.zero_le _
  | skip _ _ ih =>
      rw [byteLength_append]
      exact ih.trans (Nat.le_add_left ..)
  | token hfits _ ih =>
      rw [byteLength_append, List.length_cons, Nat.add_comm]
      exact Nat.add_le_add hfits.byteLength_pos ih

/-- Tokens stand one after the other, and none of them is empty. -/
theorem ordered (h : Scans rest pos cs ts) :
    ts.Pairwise (fun t u => t.span.stop ≤ u.span.start) ∧
      ∀ t ∈ ts, pos ≤ t.span.start ∧ t.span.start < t.span.stop := by
  induction h with
  | nil => exact ⟨.nil, by simp⟩
  | skip _ _ ih =>
      exact ⟨ih.1, fun t ht => ⟨(Nat.le_add_right ..).trans (ih.2 t ht).1, (ih.2 t ht).2⟩⟩
  | token hfits _ ih =>
      refine ⟨.cons (fun t ht => (ih.2 t ht).1) ih.1, fun t ht => ?_⟩
      rcases List.mem_cons.1 ht with rfl | ht
      · exact ⟨le_rfl, Nat.lt_add_of_pos_right hfits.byteLength_pos⟩
      · exact ⟨(Nat.le_add_right ..).trans (ih.2 t ht).1, (ih.2 t ht).2⟩

end Scans

end Scan

end GrammarForge
