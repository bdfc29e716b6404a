import GrammarForge.Proofs.Grammar.NormalForm

/-!
# Printed expressions are scanned

The printed form of a normal expression is scanned into tokens that derive the expression, except
that a line break in a literal is printed as it is and breaks the literal off. What is said here
about pieces of text holds wherever they stand, as long as no word goes on after them.
-/

namespace GrammarForge

/-! ## Pieces of text -/

namespace Scan

/-- What comes here does not continue a word. -/
def Boundary (rest : List Char) : Prop := ∀ c ∈ rest.head?, Text.isIdentRest c = false

theorem boundary_cons {c : Char} {rest : List Char} (h : Text.isIdentRest c = false) :
    Boundary (c :: rest) := by
  intro d hd
  cases hd
  exact h

/-- The characters from byte `pos` on are these tokens. -/
def Reads (pos : Nat) (cs : List Char) (ts : List Token) : Prop :=
  ∀ rest, Boundary rest →
    scanFrom pos (cs ++ rest) = (scanFrom (pos + byteLength cs) rest).map (ts ++ ·)

/-- The characters from byte `pos` on have a literal that is broken off. -/
def Breaks (pos : Nat) (cs : List Char) : Prop :=
  ∃ span, ∀ rest, Boundary rest → scanFrom pos (cs ++ rest) = .error (.unterminatedString span)

/-- The characters are tokens with the property `p` if they are `clean`, and else have a literal
that is broken off. -/
def Yields (clean : Prop) (p : List Token → Prop) (cs : List Char) : Prop :=
  ∀ pos, (clean → ∃ ts, Reads pos cs ts ∧ p ts) ∧ (¬ clean → Breaks pos cs)

theorem scanFrom_piece {pos : Nat} {c : Char} {rest : List Char} {piece : Piece}
    (h : nextPiece c rest = .ok piece) :
    scanFrom pos (c :: rest) =
      (scanFrom (pos + byteLength piece.chars) piece.rest).map fun tokens =>
        match piece.kind with
        | none => tokens
        | some kind =>
          ⟨kind, String.ofList piece.chars, ⟨pos, pos + byteLength piece.chars⟩⟩ :: tokens := by
  rw [scanFrom]
  split
  · simp_all
  · rename_i piece' h'
    obtain rfl : piece = piece' := Except.ok.inj (h.symm.trans h')
    simp only
    cases scanFrom (pos + byteLength piece.chars) piece.rest with
    | error e => rfl
    | ok tokens => cases hk : piece.kind <;> simp [Except.map]

theorem nextPiece_punctuation {c : Char} {kind : TokenKind} (h : TokenKind.ofChar? c = some kind)
    (rest : List Char) : nextPiece c rest = .ok ⟨some kind, [c], rest⟩ := by
  have hc := h
  unfold TokenKind.ofChar? at hc
  split at hc <;> cases hc <;> rfl

theorem nextPiece_word {c : Char} (h : Text.isIdentStart c = true) (rest : List Char) :
    nextPiece c rest = .ok ⟨some .ident, c :: rest.takeWhile Text.isIdentRest,
      rest.dropWhile Text.isIdentRest⟩ := by
  have hne (d : Char) (hd : Text.isIdentStart d = false) : c ≠ d := by
    rintro rfl
    simp [h] at hd
  have hblank : Text.isAsciiBlank c = false := by
    simp [Text.isAsciiBlank, hne ' ' rfl, hne '\t' rfl, hne '\n' rfl, hne '\x0c' rfl,
      hne '\r' rfl]
  have hquote : (decide (c = '"') || decide (c = '\'')) = false := by
    simp [hne '"' rfl, hne '\'' rfl]
  rw [nextPiece.eq_4 _ _ (by simp [hne '/' rfl]) (by simp [hne '/' rfl]) (by simp [hne ':' rfl]),
    hblank, TokenKind.ofChar_identStart h, hquote, h]
  rfl

/-- A word in front of a boundary is a piece. -/
theorem nextPiece_word_front {c : Char} {tail after : List Char} (hc : Text.isIdentStart c = true)
    (htail : ∀ d ∈ tail, Text.isIdentRest d = true) (hafter : Boundary after) :
    nextPiece c (tail ++ after) = .ok ⟨some .ident, c :: tail, after⟩ := by
  have htake : (tail ++ after).takeWhile Text.isIdentRest = tail := by
    rw [List.takeWhile_append_of_pos htail]
    cases after with
    | nil => simp
    | cons d after => simp [hafter d rfl]
  have hdrop : (tail ++ after).dropWhile Text.isIdentRest = after := by
    rw [List.dropWhile_append_of_pos htail]
    cases after with
    | nil => rfl
    | cons d after => simp [hafter d rfl]
  rw [nextPiece_word hc, htake, hdrop]

theorem scanFrom_blank (pos : Nat) (rest : List Char) :
    scanFrom pos (' ' :: rest) = scanFrom (pos + 1) rest := by
  have h : nextPiece ' ' rest = .ok ⟨none, [' '], rest⟩ := rfl
  rw [scanFrom_piece h]
  exact congrFun Except.map_id (scanFrom (pos + 1) rest)

namespace Yields

variable {clean clean' : Prop} {p q : List Token → Prop} {cs ds : List Char}

theorem imp (h : Yields clean p cs) (hclean : clean ↔ clean') (hp : ∀ ts, p ts → q ts) :
    Yields clean' q cs := by
  intro pos
  obtain ⟨hreads, hbreaks⟩ := h pos
  refine ⟨fun hc => ?_, fun hc => hbreaks (mt hclean.1 hc)⟩
  obtain ⟨ts, hts, hpts⟩ := hreads (hclean.2 hc)
  exact ⟨ts, hts, hp ts hpts⟩

theorem nil (hp : p []) : Yields True p [] := by
  intro pos
  refine ⟨fun _ => ⟨[], fun rest _ => ?_, hp⟩, fun h => (h trivial).elim⟩
  show scanFrom pos rest = (scanFrom pos rest).map _
  cases scanFrom pos rest <;> rfl

theorem blank (h : Yields clean p cs) : Yields clean p (' ' :: cs) := by
  intro pos
  obtain ⟨hreads, hbreaks⟩ := h (pos + 1)
  have hpos : pos + 1 + byteLength cs = pos + byteLength (' ' :: cs) := Nat.add_assoc ..
  constructor
  · intro hclean
    obtain ⟨ts, hts, hpts⟩ := hreads hclean
    refine ⟨ts, fun rest hrest => ?_, hpts⟩
    rw [List.cons_append, scanFrom_blank, hts rest hrest, hpos]
  · intro hclean
    obtain ⟨span, hspan⟩ := hbreaks hclean
    refine ⟨span, fun rest hrest => ?_⟩
    rw [List.cons_append, scanFrom_blank, hspan rest hrest]

/-- A token that ends where it ends, whatever comes after it. -/
theorem symbol {c : Char} (tail : List Char) {kind : TokenKind}
    (hpiece : ∀ rest, nextPiece c (tail ++ rest) = .ok ⟨some kind, c :: tail, rest⟩)
    (h : Yields clean p cs) :
    Yields clean (fun ts => ∃ t us, ts = t :: us ∧ t.kind = kind ∧ p us) (c :: (tail ++ cs)) := by
  intro pos
  obtain ⟨hreads, hbreaks⟩ := h (pos + byteLength (c :: tail))
  have hpos : pos + byteLength (c :: tail) + byteLength cs =
      pos + byteLength (c :: (tail ++ cs)) := by
    rw [← List.cons_append, byteLength_append, Nat.add_assoc]
  constructor
  · intro hclean
    obtain ⟨ts, hts, hpts⟩ := hreads hclean
    refine ⟨_, fun rest hrest => ?_,
      ⟨kind, String.ofList (c :: tail), ⟨pos, pos + byteLength (c :: tail)⟩⟩, ts, rfl, rfl, hpts⟩
    rw [List.cons_append, List.append_assoc, scanFrom_piece (hpiece _), hts rest hrest, hpos]
    cases scanFrom (pos + byteLength (c :: (tail ++ cs))) rest <;> rfl
  · intro hclean
    obtain ⟨span, hspan⟩ := hbreaks hclean
    refine ⟨span, fun rest hrest => ?_⟩
    rw [List.cons_append, List.append_assoc, scanFrom_piece (hpiece _), hspan rest hrest]
    rfl

theorem punctuation {c : Char} {kind : TokenKind} (hc : TokenKind.ofChar? c = some kind)
    (h : Yields clean p cs) :
    Yields clean (fun ts => ∃ t us, ts = t :: us ∧ t.kind = kind ∧ p us) (c :: cs) :=
  symbol [] (nextPiece_punctuation hc) h

theorem boundary_append {cs rest : List Char} (hcs : Boundary cs) (hrest : Boundary rest) :
    Boundary (cs ++ rest) := by
  cases cs with
  | nil => exact hrest
  | cons => exact hcs

/-- Two pieces of text that do not run together. -/
theorem append (h : Yields clean p cs) (h' : Yields clean' q ds) (hds : Boundary ds) :
    Yields (clean ∧ clean') (fun ts => ∃ us vs, ts = us ++ vs ∧ p us ∧ q vs) (cs ++ ds) := by
  intro pos
  obtain ⟨hreads, hbreaks⟩ := h pos
  obtain ⟨hreads', hbreaks'⟩ := h' (pos + byteLength cs)
  have hpos : pos + byteLength cs + byteLength ds = pos + byteLength (cs ++ ds) := by
    rw [byteLength_append, Nat.add_assoc]
  constructor
  · rintro ⟨hclean, hclean'⟩
    obtain ⟨us, hus, hpus⟩ := hreads hclean
    obtain ⟨vs, hvs, hqvs⟩ := hreads' hclean'
    refine ⟨us ++ vs, fun rest hrest => ?_, us, vs, rfl, hpus, hqvs⟩
    rw [List.append_assoc, hus _ (boundary_append hds hrest), hvs rest hrest, hpos]
    cases scanFrom (pos + byteLength (cs ++ ds)) rest <;> simp [Except.map]
  · intro hclean
    by_cases hc : clean
    · obtain ⟨us, hus, -⟩ := hreads hc
      obtain ⟨span, hspan⟩ := hbreaks' fun hc' => hclean ⟨hc, hc'⟩
      refine ⟨span, fun rest hrest => ?_⟩
      rw [List.append_assoc, hus _ (boundary_append hds hrest), hspan rest hrest]
      rfl
    · obtain ⟨span, hspan⟩ := hbreaks hc
      refine ⟨span, fun rest hrest => ?_⟩
      rw [List.append_assoc, hspan _ (boundary_append hds hrest)]

theorem word (hcs : IsWord cs) :
    Yields True (fun ts => ∃ t, ts = [t] ∧ t.kind = .ident ∧ t.text = String.ofList cs) cs := by
  obtain ⟨c, tail, rfl, hstart, htail⟩ := hcs
  intro pos
  refine ⟨fun _ => ⟨_, fun rest hrest => ?_, ⟨.ident, String.ofList (c :: tail),
    ⟨pos, pos + byteLength (c :: tail)⟩⟩, rfl, rfl, rfl⟩, fun h => (h trivial).elim⟩
  exact scanFrom_piece (nextPiece_word_front hstart htail hrest)

end Yields

/-! ## Literals -/

theorem resolve_plain {c : Char} (h : c ≠ '\\') (rest : List Char) :
    Quoted.resolve (c :: rest) = c :: Quoted.resolve rest := by
  rw [Quoted.resolve.eq_def]
  split <;> simp_all

theorem escape_escaped {c : Char} (h : c = '\\' ∨ c = '\'') (cs : List Char) :
    Quoted.escape (c :: cs) = '\\' :: c :: Quoted.escape cs := by
  rw [Quoted.escape, if_pos (by simpa using h)]

theorem escape_plain {c : Char} (hb : c ≠ '\\') (hq : c ≠ '\'') (cs : List Char) :
    Quoted.escape (c :: cs) = c :: Quoted.escape cs := by
  rw [Quoted.escape, if_neg (by simp [hb, hq])]

theorem resolve_escape (cs : List Char) : Quoted.resolve (Quoted.escape cs) = cs := by
  induction cs with
  | nil => rfl
  | cons c cs ih =>
      by_cases hescape : c = '\\' ∨ c = '\''
      · rw [escape_escaped hescape]
        rcases hescape with rfl | rfl <;> simp [Quoted.resolve, ih]
      · obtain ⟨hb, hq⟩ := not_or.1 hescape
        rw [escape_plain hb hq, resolve_plain hb, ih]

theorem quotedBody_escaped {quote c : Char} (rest : List Char) :
    quotedBody quote ('\\' :: c :: rest) =
      (quotedBody quote rest).map fun (body, after) => ('\\' :: c :: body, after) := by
  rw [quotedBody]

/-- Escaped text is read up to the quote after it, unless a line ends in it. -/
theorem quotedBody_escape (cs rest : List Char) :
    quotedBody '\'' (Quoted.escape cs ++ '\'' :: rest) =
      if '\n' ∈ cs then none else some (Quoted.escape cs ++ ['\''], rest) := by
  induction cs with
  | nil => rfl
  | cons c cs ih =>
      by_cases hn : c = '\n'
      · subst hn
        rw [escape_plain (by decide) (by decide)]
        simp [quotedBody]
      · have hmem : '\n' ∈ c :: cs ↔ '\n' ∈ cs := by simp [Ne.symm hn]
        simp only [hmem]
        by_cases hescape : c = '\\' ∨ c = '\''
        · rw [escape_escaped hescape, List.cons_append, List.cons_append, quotedBody_escaped, ih]
          split <;> rfl
        · obtain ⟨hb, hq⟩ := not_or.1 hescape
          rw [escape_plain hb hq, List.cons_append, quotedBody_plain hn hb, if_neg hq, ih]
          split <;> rfl

theorem scanFrom_unterminated {rest : List Char} (h : quotedBody '\'' rest = none) (pos : Nat) :
    scanFrom pos ('\'' :: rest) = .error (.unterminatedString ⟨pos, pos + 1⟩) := by
  have hpiece : nextPiece '\'' rest = .error .unterminatedString := by
    simp [nextPiece, Text.isAsciiBlank, TokenKind.ofChar?, h]
  rw [scanFrom]
  split
  · simp_all [Fault.toError]
  · simp_all

theorem scanFrom_quoted {rest body after : List Char}
    (h : quotedBody '\'' rest = some (body, after)) (pos : Nat) :
    scanFrom pos ('\'' :: rest) = (scanFrom (pos + byteLength ('\'' :: body)) after).map
      (⟨.quoted, String.ofList ('\'' :: body), ⟨pos, pos + byteLength ('\'' :: body)⟩⟩ :: ·) := by
  have hpiece : nextPiece '\'' rest = .ok ⟨some .quoted, '\'' :: body, after⟩ := by
    simp [nextPiece, Text.isAsciiBlank, TokenKind.ofChar?, h]
  exact scanFrom_piece hpiece

/-- A quoted text is read back, unless a line ends in it. -/
theorem Yields.quoted (text : String) :
    Yields ('\n' ∉ text.toList)
      (fun ts => ∃ t, ts = [t] ∧ t.kind = .quoted ∧ Quoted.unquote t.text = text)
      (Quoted.quote text).toList := by
  have hquote (rest : List Char) : (Quoted.quote text).toList ++ rest =
      '\'' :: (Quoted.escape text.toList ++ '\'' :: rest) := by
    simp [Quoted.quote]
  intro pos
  constructor
  · intro hclean
    refine ⟨_, fun rest _ => ?_, ⟨.quoted, Quoted.quote text,
      ⟨pos, pos + byteLength (Quoted.quote text).toList⟩⟩, rfl, rfl, ?_⟩
    · have hbody := quotedBody_escape text.toList rest
      rw [if_neg hclean] at hbody
      rw [hquote, scanFrom_quoted hbody]
      simp [Quoted.quote]
    · simp [Quoted.unquote, Quoted.quote, resolve_escape]
  · intro hclean
    refine ⟨⟨pos, pos + 1⟩, fun rest _ => ?_⟩
    have hbody := quotedBody_escape text.toList rest
    rw [if_pos (not_not.1 hclean)] at hbody
    rw [hquote, scanFrom_unterminated hbody]

end Scan

/-! ## Expressions -/

namespace Expr

/-- The character is in none of the literals. -/
def Avoids (c : Char) (e : Expr) : Prop := ∀ text ∈ e.literals, c ∉ text.toList

def AllAvoid (c : Char) (es : List Expr) : Prop := ∀ text ∈ literalsOf es, c ∉ text.toList

theorem allAvoid_cons (c : Char) (e : Expr) (es : List Expr) :
    AllAvoid c (e :: es) ↔ e.Avoids c ∧ AllAvoid c es := by
  simp [AllAvoid, Avoids, literalsOf, or_imp, forall_and]

end Expr

namespace Derived

/-- The narrowest part of the syntax that the printed form of an expression is. -/
def Printed (ts : List Token) : Expr → Prop
  | .choice es => Choice ts (.choice es)
  | .sequence es => Sequence ts (.sequence es)
  | e => Postfix ts e

theorem Postfix.sequence {ts : List Token} {e : Expr} (h : Postfix ts e) : Sequence ts e := by
  have hitems := Items.cons h .nil
  rw [List.append_nil] at hitems
  exact .single hitems

theorem Printed.item {ts : List Token} {e : Expr} (h : Printed ts e)
    (he : e.isCompound = false) : Postfix ts e := by
  cases e <;> first | exact h | cases he

theorem Printed.sequence {ts : List Token} {e : Expr} (h : Printed ts e)
    (he : e.isChoice = false) : Sequence ts e := by
  cases e <;> first | exact Postfix.sequence h | exact h | cases he

theorem Printed.choice {ts : List Token} {e : Expr} (h : Printed ts e) : Choice ts e := by
  cases he : e.isChoice with
  | false => exact .single (.last (h.sequence he))
  | true => cases e <;> first | exact h | cases he

end Derived

namespace Scan

open Derived

variable {clean : Prop} {cs : List Char} {e : Expr}

/-- A choice between braces is a primary expression. -/
theorem Yields.group (group : Body.Group) {opening closing : Char}
    (ho : TokenKind.ofChar? opening = some group.openingKind)
    (hc : TokenKind.ofChar? closing = some group.closingKind)
    (hboundary : Boundary [closing]) (h : Yields clean (Choice · e) cs) :
    Yields clean (Primary · (group.wrap e)) (opening :: cs ++ [closing]) := by
  have hclosing := Yields.punctuation hc (.nil (p := fun ts => ts = []) rfl)
  refine (Yields.punctuation ho (h.append hclosing hboundary)).imp (Iff.of_eq (and_true _)) ?_
  rintro _ ⟨opening, _, rfl, hopening, ts, _, rfl, hts, closing, _, rfl, hclosing, rfl⟩
  exact group.primary hopening hts hclosing

theorem Yields.parens (h : Yields clean (Choice · e) cs) :
    Yields clean (Primary · e) ('(' :: cs ++ [')']) :=
  .group .paren rfl rfl (boundary_cons rfl) h

theorem Yields.brackets (h : Yields clean (Choice · e) cs) :
    Yields clean (Primary · (.optional e)) ('[' :: cs ++ [']']) :=
  .group .bracket rfl rfl (boundary_cons rfl) h

/-- An expression with parentheses where they are needed is an item. -/
theorem Yields.parenthesize (h : Yields clean (Printed · e) e.chars) :
    Yields clean (Postfix · e) (Expr.parenthesize e.isCompound e.chars) := by
  cases he : e.isCompound with
  | false => exact h.imp Iff.rfl fun ts hts => hts.item he
  | true => exact ((h.imp Iff.rfl fun ts hts => hts.choice).parens).imp Iff.rfl fun ts => .primary

/-- An expression with parentheses where they are needed is an alternative. -/
theorem Yields.alternative (h : Yields clean (Printed · e) e.chars) :
    Yields clean (Sequence · e) (Expr.parenthesize e.isChoice e.chars) := by
  cases he : e.isChoice with
  | false => exact h.imp Iff.rfl fun ts hts => hts.sequence he
  | true =>
      exact ((h.imp Iff.rfl fun ts hts => hts.choice).parens).imp Iff.rfl
        fun ts hts => (Postfix.primary hts).sequence

/-- An operator after an item. -/
theorem Yields.repetition {operator : Char} (kind : TokenKind) {wrap : Expr → Expr}
    (hkind : TokenKind.ofChar? operator = some kind) (hwrap : Body.repetition? kind = some wrap)
    (hboundary : Boundary [operator]) (h : Yields clean (Printed · e) e.chars) :
    Yields clean (Postfix · (wrap e)) (Expr.parenthesize e.isCompound e.chars ++ [operator]) := by
  have hoperator := Yields.punctuation hkind (.nil (p := fun ts => ts = []) rfl)
  refine (h.parenthesize.append hoperator hboundary).imp (Iff.of_eq (and_true _)) ?_
  rintro _ ⟨ts, _, rfl, hts, t, _, rfl, ht, rfl⟩
  exact Body.postfix_of_repetition (ht ▸ hwrap) hts

mutual

/-- The printed form of a normal expression is scanned into tokens from which it derives. -/
theorem chars_yield : (e : Expr) → e.IsNormal →
    Yields (e.Avoids '\n') (Printed · e) e.chars
  | .choice es, h => (alternativesChars_yield es (by rintro rfl; simp [Expr.IsNormal] at h) h.2).imp
      Iff.rfl fun _ hts => .several hts h.1
  | .sequence es, h => (itemsChars_yield es h.2).imp Iff.rfl fun _ hts => .several hts h.1
  | .optional e, h => ((chars_yield e h).imp Iff.rfl fun _ hts => hts.choice).brackets.imp
      Iff.rfl fun _ => .primary
  | .zeroOrMore e, h => .repetition .star rfl rfl (boundary_cons rfl) (chars_yield e h)
  | .oneOrMore e, h => .repetition .plus rfl rfl (boundary_cons rfl) (chars_yield e h)
  | .reference name, h => (Yields.word h.1).imp (by simp [Expr.Avoids, Expr.literals]) <| by
      rintro _ ⟨t, rfl, ht, htext⟩
      rw [String.ofList_toList] at htext
      exact htext ▸ .primary (.reference ht (htext ▸ h.2))
  | .token name, h => (Yields.word h.1).imp (by simp [Expr.Avoids, Expr.literals]) <| by
      rintro _ ⟨t, rfl, ht, htext⟩
      rw [String.ofList_toList] at htext
      exact htext ▸ .primary (.token ht (htext ▸ h.2))
  | .literal text, _ => (Yields.quoted text).imp (by simp [Expr.Avoids, Expr.literals]) <| by
      rintro _ ⟨t, rfl, ht, rfl⟩
      exact .primary (.literal ht)

theorem itemsChars_yield : (es : List Expr) → Expr.AreNormal es →
    Yields (Expr.AllAvoid '\n' es) (Items · es) (Expr.itemsChars es)
  | [], _ => (Yields.nil (p := (Items · [])) .nil).imp (by simp [Expr.AllAvoid, Expr.literalsOf])
      fun _ => id
  | e :: es, h => by
      have hitem := (chars_yield e h.1).parenthesize
      have hitems := itemsChars_yield es h.2
      rw [Expr.itemsChars, Expr.allAvoid_cons]
      cases es with
      | nil =>
          rw [List.isEmpty_nil, if_pos rfl, List.append_nil]
          refine hitem.imp (by simp [Expr.AllAvoid, Expr.literalsOf]) fun ts hts => ?_
          have := Items.cons hts .nil
          rwa [List.append_nil] at this
      | cons e' es =>
          refine (hitem.append hitems.blank (boundary_cons rfl)).imp Iff.rfl ?_
          rintro _ ⟨ts, us, rfl, hts, hus⟩
          exact .cons hts hus

theorem alternativesChars_yield : (es : List Expr) → es ≠ [] → Expr.AreNormal es →
    Yields (Expr.AllAvoid '\n' es) (Alternatives · es) (Expr.alternativesChars es)
  | [], hne, _ => (hne rfl).elim
  | e :: es, _, h => by
      have hsequence := (chars_yield e h.1).alternative
      rw [Expr.alternativesChars, Expr.allAvoid_cons]
      cases hes : es with
      | nil =>
          rw [List.isEmpty_nil, if_pos rfl, List.append_nil]
          exact hsequence.imp (by simp [Expr.AllAvoid, Expr.literalsOf]) fun ts hts => .last hts
      | cons e' es' =>
          have hbar := Yields.punctuation (c := '|') rfl
            (alternativesChars_yield es (by simp [hes]) h.2).blank
          rw [hes] at hbar
          refine (hsequence.append hbar.blank (boundary_cons rfl)).imp Iff.rfl ?_
          rintro _ ⟨ts, _, rfl, hts, bar, us, rfl, hbar, hus⟩
          exact .next hts hbar hus

end

end Scan

end GrammarForge
