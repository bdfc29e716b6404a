import GrammarForge.Grammar.Scan
import Mathlib.Data.List.TakeWhile

/-!
# What scanned tokens look like

The kind of a scanned token says what its text is: a word, a quoted literal, `::=`, or one character
of punctuation.
-/

namespace GrammarForge

/-- A letter or underscore, and letters, digits and underscores after it. -/
def IsWord (chars : List Char) : Prop :=
  ∃ c rest, chars = c :: rest ∧ Text.isIdentStart c ∧ ∀ d ∈ rest, Text.isIdentRest d

theorem IsWord.all {cs : List Char} (h : IsWord cs) : ∀ c ∈ cs, Text.isIdentRest c = true := by
  obtain ⟨c, rest, rfl, hc, hrest⟩ := h
  intro d hd
  rcases List.mem_cons.1 hd with rfl | hd
  · simp only [Text.isIdentStart, Text.isIdentRest, Char.isAlphanum, Bool.or_eq_true] at hc ⊢
    exact hc.elim (fun halpha => .inl (.inl halpha)) .inr
  · exact hrest d hd

/-- What the text of a token of this kind can be. -/
def TokenKind.Spells : TokenKind → List Char → Prop
  | .ident, chars => IsWord chars
  | .quoted, chars => ∃ quote body, (quote = '"' ∨ quote = '\'') ∧ chars = quote :: body ∧
      Scan.quotedBody quote body = some (body, [])
  | .define, chars => chars = [':', ':', '=']
  | kind, chars => ∃ c, chars = [c] ∧ TokenKind.ofChar? c = some kind

/-- The text of the token is one for its kind. -/
def Token.WellSpelled (t : Token) : Prop := t.kind.Spells t.text.toList

theorem TokenKind.spells_ofChar {c : Char} {kind : TokenKind} (h : ofChar? c = some kind) :
    kind.Spells [c] := by
  have hkind := h
  unfold ofChar? at hkind
  split at hkind <;> cases hkind <;> exact ⟨_, rfl, h⟩

namespace Scan

/-- A character that is neither a line feed nor a backslash ends the literal or is part of it. -/
theorem quotedBody_plain {quote c : Char} (hn : c ≠ '\n') (hb : c ≠ '\\') (rest : List Char) :
    quotedBody quote (c :: rest) = if c = quote then some ([c], rest)
      else (quotedBody quote rest).map fun (body, after) => (c :: body, after) := by
  rw [quotedBody.eq_def]
  split <;> simp_all

theorem ne_backslash {c : Char} {rest : List Char} (hlast : c = '\\' → rest = [] → False)
    (hescape : ∀ d rest', c = '\\' → rest = d :: rest' → False) : c ≠ '\\' := by
  intro hc
  cases rest with
  | nil => exact hlast hc rfl
  | cons d rest => exact hescape d rest hc rfl

/-- The end of a literal does not depend on the text after it. -/
theorem quotedBody_self {quote : Char} {cs body after : List Char}
    (h : quotedBody quote cs = some (body, after)) : quotedBody quote body = some (body, []) := by
  fun_induction quotedBody quote cs generalizing body with
  | case1 => cases h
  | case2 => cases h
  | case3 => cases h
  | case4 c rest ih =>
      simp only [Option.map_eq_some_iff, Prod.exists, Prod.mk.injEq] at h
      obtain ⟨b, a, hb, rfl, rfl⟩ := h
      simp [quotedBody, ih hb]
  | case5 rest hn hlast hescape =>
      have hb := ne_backslash hlast hescape
      cases h
      simp [quotedBody_plain hn hb]
  | case6 c rest hn hlast hescape hc ih =>
      simp only [Option.map_eq_some_iff, Prod.exists, Prod.mk.injEq] at h
      obtain ⟨b, a, hbody, rfl, rfl⟩ := h
      simp [quotedBody_plain hn (ne_backslash hlast hescape), hc, ih hbody]

theorem nextPiece_spells {c : Char} {rest : List Char} {p : Piece} {kind : TokenKind}
    (h : nextPiece c rest = .ok p) (hk : p.kind = some kind) : kind.Spells p.chars := by
  unfold nextPiece at h
  split at h
  · cases h; cases hk
  · split at h
    · cases h; cases hk
    · split at h <;> cases h
      cases hk
    · cases h; cases hk; rfl
    · split at h
      · cases h; cases hk
        exact TokenKind.spells_ofChar ‹_›
      · split at h
        · rename_i hquote
          split at h <;> cases h
          cases hk
          exact ⟨_, _, by simpa using hquote, rfl, quotedBody_self ‹_›⟩
        · split at h <;> cases h
          cases hk
          exact ⟨_, _, rfl, ‹_›, fun d hd => List.mem_takeWhile_imp hd⟩

/-- Every token of a scanned text is spelled as its kind says. -/
theorem scanFrom_wellSpelled {pos : Nat} {cs : List Char} {tokens : List Token}
    (h : scanFrom pos cs = .ok tokens) : ∀ t ∈ tokens, t.WellSpelled := by
  fun_induction scanFrom pos cs generalizing tokens with
  | case1 => cases h; simp
  | case2 => cases h
  | case3 => cases h
  | case4 =>
      rename_i hrest _ ih
      cases h
      exact ih hrest
  | case5 =>
      rename_i hpiece _ _ hrest _ hkind ih
      cases h
      intro t ht
      rcases List.mem_cons.1 ht with rfl | ht
      · rw [Token.WellSpelled, String.toList_ofList]
        exact nextPiece_spells hpiece hkind
      · exact ih hrest t ht

end Scan

theorem TokenKind.ofChar_identStart {c : Char} (h : Text.isIdentStart c = true) :
    ofChar? c = none := by
  unfold ofChar?
  split <;> first | rfl | (revert h; decide)

/-- Only names have the text of a word. -/
theorem Token.WellSpelled.kind_eq_ident {t : Token} (h : t.WellSpelled)
    (hword : IsWord t.text.toList) : t.kind = .ident := by
  obtain ⟨c, rest, hc, hstart, -⟩ := hword
  unfold WellSpelled at h
  rw [hc] at h
  unfold TokenKind.Spells at h
  split at h
  · assumption
  · obtain ⟨quote, body, rfl | rfl, hq, -⟩ := h <;> cases hq <;> exact absurd hstart (by decide)
  · cases h
    exact absurd hstart (by decide)
  · obtain ⟨d, hd, hkind⟩ := h
    cases hd
    rw [TokenKind.ofChar_identStart hstart] at hkind
    cases hkind

end GrammarForge
