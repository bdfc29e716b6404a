import GrammarForge.Proofs.Grammar.ScannedPieces

/-!
# Shapes of tokens and comments

What tokens and comments look like, said without the scanners that take them off the front of a
text. A literal is what stands between a quote and the next one of the same sort that no backslash
takes along. A block comment goes up to the first `*/` after its opening.
-/

namespace GrammarForge

/-- What stands between two of these quotes. A backslash takes the next character along. -/
inductive LiteralBody (quote : Char) : List Char → Prop
  | nil : LiteralBody quote []
  | plain {c : Char} {rest : List Char} : c ≠ quote → c ≠ '\\' → c ≠ '\n' →
      LiteralBody quote rest → LiteralBody quote (c :: rest)
  | escaped {c : Char} {rest : List Char} :
      LiteralBody quote rest → LiteralBody quote ('\\' :: c :: rest)

/-- The characters end in `*/`, and there is no other before it. -/
def EndsComment (chars : List Char) : Prop :=
  ∃ body, chars = body ++ ['*', '/'] ∧ ¬ ['*', '/'] <:+: body ++ ['*']

/-- Blanks and comments, one after the other, in front of `rest`. -/
inductive Gap (rest : List Char) : List Char → Prop
  | nil : Gap rest []
  | blank {c : Char} {cs : List Char} : Text.isAsciiBlank c = true → Gap rest cs →
      Gap rest (c :: cs)
  | lineComment {line cs : List Char} : '\n' ∉ line → Scan.EndsLine (cs ++ rest) → Gap rest cs →
      Gap rest ('/' :: '/' :: (line ++ cs))
  | blockComment {comment cs : List Char} : EndsComment comment → Gap rest cs →
      Gap rest ('/' :: '*' :: (comment ++ cs))

namespace TokenKind

/-- The character that the tokens of this kind are. -/
def character? : TokenKind → Option Char
  | leftBrace => some '\x7b'
  | rightBrace => some '\x7d'
  | leftParen => some '('
  | rightParen => some ')'
  | leftBracket => some '['
  | rightBracket => some ']'
  | equals => some '='
  | pipe => some '|'
  | star => some '*'
  | plus => some '+'
  | question => some '?'
  | semicolon => some ';'
  | define | ident | quoted => none

/-- What the tokens of this kind look like. -/
def Shape : TokenKind → List Char → Prop
  | ident, chars => IsWord chars
  | quoted, chars => ∃ quote body, (quote = '"' ∨ quote = '\'') ∧ LiteralBody quote body ∧
      chars = quote :: (body ++ [quote])
  | define, chars => chars = [':', ':', '=']
  | kind, chars => ∃ c, kind.character? = some c ∧ chars = [c]

theorem ofChar?_eq_some_iff {c : Char} {kind : TokenKind} :
    ofChar? c = some kind ↔ kind.character? = some c := by
  constructor
  · intro h
    unfold ofChar? at h
    split at h <;> cases h <;> rfl
  · intro h
    cases kind <;> cases h <;> rfl

end TokenKind

namespace Scan

theorem literalBody_of_quotedBody {quote : Char} {cs body after : List Char}
    (h : quotedBody quote cs = some (body, after)) :
    ∃ inner, body = inner ++ [quote] ∧ LiteralBody quote inner := by
  fun_induction quotedBody quote cs generalizing body with
  | case1 => cases h
  | case2 => cases h
  | case3 => cases h
  | case4 c rest ih =>
      obtain ⟨⟨b, a⟩, hb, heq⟩ := Option.map_eq_some_iff.1 h
      cases heq
      obtain ⟨inner, rfl, hinner⟩ := ih hb
      exact ⟨'\\' :: c :: inner, rfl, .escaped hinner⟩
  | case5 =>
      cases h
      exact ⟨[], rfl, .nil⟩
  | case6 c rest hn hlast hescape hc ih =>
      obtain ⟨⟨b, a⟩, hb, heq⟩ := Option.map_eq_some_iff.1 h
      cases heq
      obtain ⟨inner, rfl, hinner⟩ := ih hb
      exact ⟨c :: inner, rfl, .plain hc (ne_backslash hlast hescape) hn hinner⟩

theorem quotedBody_of_literalBody {quote : Char} (hn : quote ≠ '\n') (hb : quote ≠ '\\')
    {inner : List Char} (h : LiteralBody quote inner) :
    quotedBody quote (inner ++ [quote]) = some (inner ++ [quote], []) := by
  induction h with
  | nil => simp [quotedBody_plain hn hb]
  | plain hc hcb hcn _ ih => simp [quotedBody_plain hcn hcb, hc, ih]
  | escaped _ ih => simp [quotedBody_escaped, ih]

theorem endsComment_of_blockComment {cs body after : List Char}
    (h : blockComment cs = some (body, after)) : EndsComment body := by
  fun_induction blockComment cs generalizing body with
  | case1 => cases h
  | case2 =>
      cases h
      exact ⟨[], rfl, by decide⟩
  | case3 c rest hopen ih =>
      obtain ⟨⟨b, a⟩, hb, heq⟩ := Option.map_eq_some_iff.1 h
      cases heq
      obtain ⟨inner, rfl, hinner⟩ := ih hb
      refine ⟨c :: inner, rfl, fun hinfix => ?_⟩
      rcases List.infix_cons_iff.1 hinfix with hfront | hback
      · -- A `*/` at the front would have ended the comment here.
        obtain ⟨rfl, hslash⟩ := List.cons_prefix_cons.1 hfront
        cases inner with
        | nil => simp at hslash
        | cons d inner =>
            obtain ⟨rfl, -⟩ := List.cons_prefix_cons.1 hslash
            exact hopen _ rfl (blockComment_append hb).symm
      · exact hinner hback

theorem blockComment_of_endsComment {chars : List Char} (h : EndsComment chars) :
    blockComment chars = some (chars, []) := by
  obtain ⟨body, rfl, hbody⟩ := h
  induction body with
  | nil => rfl
  | cons c body ih =>
      have hrest := ih fun hinfix => hbody (List.infix_cons_iff.2 (.inr hinfix))
      have hopen : ∀ rest, c = '*' → body ++ ['*', '/'] = '/' :: rest → False := by
        rintro rest rfl hslash
        apply hbody
        cases body with
        | nil => cases hslash
        | cons d body =>
            obtain ⟨rfl, -⟩ := List.cons.inj hslash
            exact ⟨[], body ++ ['*'], rfl⟩
      rw [List.cons_append, blockComment.eq_3 c _ hopen, hrest]
      rfl

theorem not_identRest_of_blank {c : Char} (h : Text.isAsciiBlank c = true) :
    Text.isIdentRest c = false := by
  simp only [Text.isAsciiBlank, Bool.or_eq_true, decide_eq_true_eq] at h
  rcases h with (((rfl | rfl) | rfl) | rfl) | rfl <;> decide

theorem Skips.gap {chars cs rest : List Char} (h : Skips chars (cs ++ rest)) (hcs : Gap rest cs) :
    Gap rest (chars ++ cs) := by
  cases h with
  | blank hc => exact .blank hc hcs
  | lineComment hline hafter => exact .lineComment hline hafter hcs
  | blockComment hbody => exact .blockComment (endsComment_of_blockComment hbody) hcs

/-- A text without tokens consists of blanks and comments. -/
theorem scans_nil_iff (rest : List Char) (pos : Nat) (cs : List Char) :
    Scans rest pos cs [] ↔ Gap rest cs := by
  constructor
  · intro h
    generalize htokens : ([] : List Token) = ts at h
    induction h with
    | nil => exact .nil
    | skip hfits _ ih => exact Skips.gap hfits (ih htokens)
    | token => cases htokens
  · intro h
    induction h generalizing pos with
    | nil => exact .nil
    | @blank c cs hc _ ih =>
        have hfits : Fits none [c] (cs ++ rest) := .blank hc
        exact .skip hfits (ih _)
    | @lineComment line cs hline hafter _ ih =>
        have hfits : Fits none ('/' :: '/' :: line) (cs ++ rest) := .lineComment hline hafter
        exact .skip hfits (ih _)
    | @blockComment comment cs hcomment _ ih =>
        have hfits : Fits none ('/' :: '*' :: comment) (cs ++ rest) :=
          .blockComment (blockComment_of_endsComment hcomment)
        exact .skip hfits (ih _)

end Scan

namespace TokenKind

/-- The texts that tokens of a kind can have are those of its shape. -/
theorem spells_iff_shape (kind : TokenKind) (chars : List Char) :
    kind.Spells chars ↔ kind.Shape chars := by
  unfold Spells Shape
  split
  · exact .rfl
  · constructor
    · rintro ⟨quote, body, hquote, rfl, hbody⟩
      obtain ⟨inner, rfl, hinner⟩ := Scan.literalBody_of_quotedBody hbody
      exact ⟨quote, inner, hquote, hinner, rfl⟩
    · rintro ⟨quote, inner, hquote, hinner, rfl⟩
      have hplain : quote ≠ '\n' ∧ quote ≠ '\\' := by rcases hquote with rfl | rfl <;> decide
      exact ⟨quote, inner ++ [quote], hquote, rfl,
        Scan.quotedBody_of_literalBody hplain.1 hplain.2 hinner⟩
  · exact .rfl
  · simp only [ofChar?_eq_some_iff, and_comm]

theorem not_identRest_of_character {kind : TokenKind} {c : Char} (h : kind.character? = some c) :
    Text.isIdentRest c = false := by
  unfold character? at h
  split at h <;> cases h <;> rfl

/-- Only names end in a character of a name. -/
theorem Shape.exists_last {kind : TokenKind} {chars : List Char} (h : kind.Shape chars)
    (hkind : kind ≠ .ident) : ∃ front c, chars = front ++ [c] ∧ Text.isIdentRest c = false := by
  unfold Shape at h
  split at h
  · exact (hkind rfl).elim
  · obtain ⟨quote, body, hquote, -, rfl⟩ := h
    refine ⟨quote :: body, quote, rfl, ?_⟩
    rcases hquote with rfl | rfl <;> decide
  · exact ⟨[':', ':'], '=', h, by decide⟩
  · obtain ⟨c, hc, rfl⟩ := h
    exact ⟨[], c, rfl, not_identRest_of_character hc⟩

end TokenKind

end GrammarForge
