import GrammarForge.Proofs.Code.Identifiers
import GrammarForge.Proofs.Grammar.BytePositions
import Mathlib

/-!
# Scanning by bytes

The scanner as a loop over the bytes of a text. At a position between two characters it takes the
piece that stands there, and goes on behind it, by a byte or more. So one step more than the text
has bytes is enough for each loop, and the scanner ends within the text, with the tokens that
`Scan.scan` finds or with the same error.
-/

namespace GrammarForge.Cursor

open Outcome

/-! ## The scanner -/

/-- Where the pattern first occurs, in bytes from the front. -/
def find? (pattern : List Char) : List Char → Option Nat
  | [] => none
  | c :: cs =>
    if pattern.isPrefixOf (c :: cs) then some 0 else (find? pattern cs).map (c.utf8Size + ·)

/-- The position behind a literal that starts at `start`, from a position in it on. -/
def literalEnd (text : String) (quote : Char) (start : Nat) : Nat → Nat → Outcome Nat
  | 0, _ => unfinished
  | steps + 1, pos =>
    match byte? text pos with
    | none => fail (.unterminatedString ⟨start, start + 1⟩)
    | some b =>
      if b = '\n' then fail (.unterminatedString ⟨start, start + 1⟩)
      else if b = '\\' then literalEnd text quote start steps (pos + 2)
      else if b = quote then pure (pos + 1)
      else literalEnd text quote start steps (pos + 1)

/-- The position behind a name, from a position in it on. -/
def nameEnd (text : String) : Nat → Nat → Outcome Nat
  | 0, _ => unfinished
  | steps + 1, pos =>
    match byte? text pos with
    | none => pure pos
    | some b => if Text.isIdentRest b then nameEnd text steps (pos + 1) else pure pos

/-- A token from `start` up to `stop`, and the position behind it. -/
def take (text : String) (kind : TokenKind) (start stop : Nat) : Outcome (Nat × Option Token) := do
  let word ← slice text start stop
  pure (stop, some ⟨kind, word, ⟨start, stop⟩⟩)

/-- A token that starts with the byte `b` at `pos`, in front of `rest`. -/
def tokenTurn (text : String) (steps pos : Nat) (b : Char) (rest : String) :
    Outcome (Nat × Option Token) :=
  match TokenKind.ofChar? b with
  | some kind => take text kind pos (pos + 1)
  | none =>
    if b = '"' ∨ b = '\'' then do
      let stop ← literalEnd text b pos steps (pos + 1)
      take text .quoted pos stop
    else if Text.isIdentStart b then do
      let stop ← nameEnd text steps pos
      take text .ident pos stop
    else
      let c := rest.toList.head?.getD '\ufffd'
      fail (.unexpectedChar c ⟨pos, pos + c.utf8Size⟩)

/-- A comment or a token that starts with the byte `b` at `pos`, in front of `rest`. -/
def pieceTurn (text : String) (steps pos : Nat) (b : Char) (rest : String) :
    Outcome (Nat × Option Token) :=
  if ['/', '/'].isPrefixOf rest.toList then
    pure ((find? ['\n'] rest.toList).elim text.utf8ByteSize (pos + ·), none)
  else if ['/', '*'].isPrefixOf rest.toList then do
    let comment ← slice text (pos + 2) text.utf8ByteSize
    (find? ['*', '/'] comment.toList).elim (fail (.unterminatedComment ⟨pos, pos + 2⟩))
      fun n => pure (pos + n + 4, none)
  else if [':', ':', '='].isPrefixOf rest.toList then take text .define pos (pos + 3)
  else tokenTurn text steps pos b rest

/-- One iteration of the scanner: the position behind a piece of the text, and the token that the
piece is, if it is one. -/
def scanTurn (text : String) (steps pos : Nat) : Outcome (Nat × Option Token) :=
  match byte? text pos with
  | none => throw .outOfBounds
  | some b =>
    if Text.isAsciiBlank b then pure (pos + 1, none)
    else do
      let rest ← slice text pos text.utf8ByteSize
      pieceTurn text steps pos b rest

/-- The loop of the scanner, each of whose iterations is given `steps` of its own. -/
def scanLoop (text : String) (steps : Nat) : Nat → List Token → Nat → Outcome (List Token)
  | 0, _, _ => unfinished
  | left + 1, tokens, pos =>
    if pos < text.utf8ByteSize then do
      let (pos, token?) ← scanTurn text steps pos
      scanLoop text steps left (tokens ++ token?.toList) pos
    else pure tokens

/-- The tokens of a text. -/
def scan (steps : Nat) (text : String) : Outcome (List Token) := scanLoop text steps steps [] 0

section Bytes

variable {text : String} {front rest : List Char} {c : Char}

/-! ## The inner loops -/

/-- Steps for the rest of a text are more than it has bytes. -/
theorem byteLength_lt_steps {cs : List Char} {steps : Nat} (h : text.toList = front ++ cs)
    (hsteps : text.utf8ByteSize < byteLength front + steps) : byteLength cs < steps := by
  rw [size_of_toList h] at hsteps
  exact Nat.lt_of_add_lt_add_left hsteps

theorem utf8Size_of_ascii (hc : c.toNat < 128) : c.utf8Size = 1 :=
  Char.utf8Size_eq_one_iff.2 (UInt32.le_iff_toNat_le.2 (Nat.le_of_lt_succ hc))

/-- A name goes on up to the first character that is not one of a name. -/
theorem nameEnd_eq {cs : List Char} {steps : Nat} (h : text.toList = front ++ cs)
    (hsteps : text.utf8ByteSize < byteLength front + steps) :
    nameEnd text steps (byteLength front) =
      pure (byteLength front + byteLength (cs.takeWhile Text.isIdentRest)) := by
  have hpos : 1 ≤ steps := (Nat.zero_le _).trans_lt (byteLength_lt_steps h hsteps)
  obtain ⟨steps, rfl⟩ := Nat.exists_eq_add_of_le' hpos
  induction cs generalizing front steps with
  | nil =>
      rw [nameEnd, byte?_end h]
      rfl
  | cons c rest ih =>
      obtain ⟨b, hbyte, hb⟩ := exists_byte h
      have hrest : Text.isIdentRest b = Text.isIdentRest c :=
        hb.test Text.isIdentRest false fun d hd =>
          Bool.eq_false_iff.2 fun hident => hd (Text.isAscii_of_isIdentRest hident)
      rw [nameEnd, hbyte]
      by_cases hc : Text.isIdentRest c = true
      · have hone : c.utf8Size = 1 := utf8Size_of_ascii (Text.isAscii_of_isIdentRest hc)
        have hbehind : text.toList = (front ++ [c]) ++ rest := by simpa using h
        have hfront : byteLength (front ++ [c]) = byteLength front + 1 := by
          rw [byteLength_append, byteLength, hone]
          rfl
        have hleft := byteLength_lt_steps h hsteps
        rw [byteLength, hone] at hleft
        obtain ⟨left, rfl⟩ := Nat.exists_eq_add_of_le' (show 1 ≤ steps by omega)
        have hstep := ih hbehind left (by omega) (by omega)
        rw [hfront] at hstep
        simp only [hrest, hc, if_true, List.takeWhile_cons, byteLength, hone]
        rw [hstep, Nat.add_assoc]
      · simp only [hrest, hc, List.takeWhile_cons]
        rfl

section Literal

variable {quote : Char} (hquote : quote.toNat < 128) (start : Nat)
include hquote

/-- From within a character, the bytes up to its end are passed over, with a step for each. -/
theorem literalEnd_skip (h : text.toList = front ++ c :: rest) {k n : Nat}
    (hk : k + n = c.utf8Size) (hin : 1 ≤ k ∨ ¬ c.toNat < 128) (steps : Nat) :
    literalEnd text quote start (steps + n) (byteLength front + k) =
      literalEnd text quote start steps (byteLength front + c.utf8Size) := by
  induction n generalizing k with
  | zero => rw [← hk, Nat.add_zero, Nat.add_zero]
  | succ n ih =>
      have hc : ¬ c.toNat < 128 := by
        refine hin.elim (fun hone hascii => ?_) id
        have := utf8Size_of_ascii hascii
        omega
      obtain ⟨b, hbyte, hb⟩ := byte?_wide h hc (show k < c.utf8Size by omega)
      have hstep := ih (k := k + 1) (by omega) (.inr hc)
      have hnewline : b ≠ '\n' := ne_of_not_ascii hb (by decide)
      have hslash : b ≠ '\\' := ne_of_not_ascii hb (by decide)
      rw [← Nat.add_assoc, literalEnd, hbyte]
      simp only [hnewline, hslash, ne_of_not_ascii hb hquote, if_false]
      rw [Nat.add_assoc, hstep]

/-- Over a character that has no meaning in a literal, the loop goes on. -/
theorem literalEnd_plain (h : text.toList = front ++ c :: rest) (hnewline : c ≠ '\n')
    (hslash : c ≠ '\\') (hc : c ≠ quote) (steps : Nat) :
    literalEnd text quote start (steps + c.utf8Size) (byteLength front) =
      literalEnd text quote start steps (byteLength front + c.utf8Size) := by
  by_cases hascii : c.toNat < 128
  · rw [utf8Size_of_ascii hascii, literalEnd, byte?_ascii h hascii]
    simp only [hnewline, hslash, hc, if_false]
  · exact literalEnd_skip hquote start h (Nat.zero_add _) (.inr hascii) steps

/-- A literal goes on up to its quote, and if there is none, the loop ends all the same. An escape
may leave the position within a character, or behind the text. -/
theorem literalEnd_eq (hslash : quote ≠ '\\') {cs : List Char} {steps : Nat}
    (h : text.toList = front ++ cs) (hsteps : text.utf8ByteSize < byteLength front + steps) :
    literalEnd text quote start steps (byteLength front) =
      ((Scan.quotedBody quote cs).map fun p => byteLength front + byteLength p.1).elim
        (fail (.unterminatedString ⟨start, start + 1⟩)) pure := by
  have hleft := byteLength_lt_steps h hsteps
  fun_induction Scan.quotedBody quote cs generalizing front steps with
  | case1 =>
      obtain ⟨steps, rfl⟩ := Nat.exists_eq_add_of_le' (Nat.succ_le_of_lt hleft)
      change literalEnd text quote start (steps + 1) (byteLength front) = _
      rw [literalEnd, byte?_end h]
      rfl
  | case2 rest =>
      obtain ⟨steps, rfl⟩ := Nat.exists_eq_add_of_le' (show 1 ≤ steps by omega)
      rw [literalEnd, byte?_ascii h (by decide)]
      rfl
  | case3 =>
      have hend : text.utf8ByteSize ≤ byteLength front + 2 := by
        rw [size_of_toList h]
        exact Nat.add_le_add_left (by decide) _
      obtain ⟨steps, rfl⟩ := Nat.exists_eq_add_of_le' (Nat.succ_le_of_lt hleft)
      change literalEnd text quote start (steps + 1 + 1) (byteLength front) = _
      rw [literalEnd, byte?_ascii h (by decide)]
      change literalEnd text quote start (steps + 1) (byteLength front + 2) = _
      rw [literalEnd, byte?_eq_none hend]
      rfl
  | case4 c rest ih =>
      have hc : text.toList = (front ++ ['\\']) ++ c :: rest := by simpa using h
      have hbehind : text.toList = (front ++ ['\\', c]) ++ rest := by simpa using h
      have hfront : byteLength (front ++ ['\\']) = byteLength front + 1 := byteLength_append ..
      have hstop : byteLength (front ++ ['\\', c]) = byteLength front + 1 + c.utf8Size := by
        rw [byteLength_append, Nat.add_assoc]
        rfl
      obtain ⟨size, hsize⟩ := Nat.exists_eq_add_of_le (Char.utf8Size_pos c)
      have hbytes : byteLength ('\\' :: c :: rest) = 1 + (c.utf8Size + byteLength rest) := rfl
      obtain ⟨left, rfl⟩ := Nat.exists_eq_add_of_le' (show size + 1 ≤ steps by omega)
      have hskip := literalEnd_skip hquote start hc hsize.symm (.inl le_rfl) left
      rw [← Nat.add_assoc, literalEnd, byte?_ascii h (by decide)]
      change literalEnd text quote start (left + size) (byteLength front + 2) = _
      rw [hfront, Nat.add_assoc, ← hstop, ih hbehind (by omega) (by omega)] at hskip
      rw [hskip, Option.map_map]
      congr 2
      funext p
      simp only [byteLength_append, byteLength, Function.comp_apply]
      omega
  | case5 rest hnewline =>
      obtain ⟨steps, rfl⟩ := Nat.exists_eq_add_of_le' (show 1 ≤ steps by omega)
      rw [literalEnd, byte?_ascii h hquote]
      have hnewline : quote ≠ '\n' := hnewline
      simp only [hnewline, hslash, if_false, if_true, Option.map_some, Option.elim_some, byteLength,
        utf8Size_of_ascii hquote]
  | case6 c rest hnewline hlast hescape hc ih =>
      have hplain : c ≠ '\\' := Scan.ne_backslash hlast hescape
      have hbehind : text.toList = (front ++ [c]) ++ rest := by simpa using h
      have hstop : byteLength (front ++ [c]) = byteLength front + c.utf8Size := byteLength_append ..
      rw [byteLength] at hleft
      obtain ⟨left, rfl⟩ := Nat.exists_eq_add_of_le' (show c.utf8Size ≤ steps by omega)
      rw [literalEnd_plain hquote start h hnewline hplain hc, ← hstop,
        ih hbehind (by omega) (by omega), Option.map_map]
      congr 2
      funext p
      simp only [byteLength_append, byteLength, Function.comp_apply]
      omega

end Literal

/-! ## Searching -/

theorem find?_newline (cs : List Char) (pos : Nat) :
    (find? ['\n'] cs).elim (pos + byteLength cs) (pos + ·) =
      pos + byteLength (cs.takeWhile (· ≠ '\n')) := by
  induction cs generalizing pos with
  | nil => rfl
  | cons c cs ih =>
      by_cases hc : c = '\n'
      · subst hc
        rfl
      · have hstep := ih (pos + c.utf8Size)
        have hfind : find? ['\n'] (c :: cs) = (find? ['\n'] cs).map (c.utf8Size + ·) :=
          if_neg (by simpa [List.isPrefixOf] using Ne.symm hc)
        have htake : (c :: cs).takeWhile (· ≠ '\n') = c :: cs.takeWhile (· ≠ '\n') :=
          List.takeWhile_cons_of_pos (by simpa using hc)
        rw [htake, hfind]
        simp only [byteLength, ← Nat.add_assoc, ← hstep]
        cases find? ['\n'] cs <;> simp [Nat.add_assoc]

/-- A comment ends behind the first `*/` that is found in it. -/
theorem find?_commentEnd (cs : List Char) :
    (find? ['*', '/'] cs).map (· + 2) = (Scan.blockComment cs).map (byteLength ·.1) := by
  fun_induction Scan.blockComment cs with
  | case1 => rfl
  | case2 rest => rfl
  | case3 c rest hopen ih =>
      have hstart : ¬ ['*', '/'].isPrefixOf (c :: rest) = true := by
        intro hstart
        obtain ⟨after, hafter⟩ := List.isPrefixOf_iff_prefix.1 hstart
        cases hafter
        exact hopen _ rfl rfl
      have hfind : find? ['*', '/'] (c :: rest) = (find? ['*', '/'] rest).map (c.utf8Size + ·) :=
        if_neg hstart
      have hmap := congrArg (Option.map (c.utf8Size + ·)) ih
      rw [Option.map_map, Option.map_map] at hmap
      rw [hfind, Option.map_map, Option.map_map]
      exact hmap

/-! ## One turn of the scanner -/

/-- The position behind a piece that starts at `pos`, and the token that it is, if it is one. -/
def afterPiece (pos : Nat) (piece : Scan.Piece) : Nat × Option Token :=
  let stop := pos + byteLength piece.chars
  (stop, piece.kind.map fun kind => ⟨kind, String.ofList piece.chars, ⟨pos, stop⟩⟩)

theorem take_eq (kind : TokenKind) {chars : List Char}
    (h : text.toList = front ++ (chars ++ rest)) :
    take text kind (byteLength front) (byteLength front + byteLength chars) =
      pure (afterPiece (byteLength front) ⟨some kind, chars, rest⟩) := by
  rw [take, slice_of_toList h]
  rfl

theorem isIdentRest_of_start (h : Text.isIdentStart c = true) : Text.isIdentRest c = true :=
  have hword : IsWord [c] := ⟨c, [], rfl, h, by simp⟩
  hword.all c (List.mem_singleton_self c)

section Tests

variable {d : Char} (hd : ¬ d.toNat < 128)
include hd

theorem isAsciiBlank_wide : Text.isAsciiBlank d = false := by
  refine Bool.eq_false_iff.2 fun hblank => ?_
  simp only [Text.isAsciiBlank, Bool.or_eq_true, decide_eq_true_eq] at hblank
  rcases hblank with (((rfl | rfl) | rfl) | rfl) | rfl <;> exact hd (by decide)

theorem ofChar?_wide : TokenKind.ofChar? d = none := by
  refine Option.eq_none_iff_forall_ne_some.2 fun kind hkind => ?_
  unfold TokenKind.ofChar? at hkind
  split at hkind <;> first | exact hd (by decide) | cases hkind

theorem isIdentStart_wide : Text.isIdentStart d = false :=
  Bool.eq_false_iff.2 fun hident =>
    hd (Text.isAscii_of_isIdentRest (isIdentRest_of_start hident))

end Tests

theorem ascii_of_blank (h : Text.isAsciiBlank c = true) : c.toNat < 128 :=
  Decidable.not_not.1 fun hc => Bool.false_ne_true ((isAsciiBlank_wide hc).symm.trans h)

theorem ascii_of_kind {kind : TokenKind} (h : TokenKind.ofChar? c = some kind) : c.toNat < 128 :=
  Decidable.not_not.1 fun hc => Option.some_ne_none kind (h.symm.trans (ofChar?_wide hc))

section Pieces

variable {b : Char} {steps pos : Nat}

theorem pieceTurn_lineComment (line : List Char) :
    pieceTurn text steps pos b (String.ofList ('/' :: '/' :: line)) =
      pure ((find? ['\n'] ('/' :: '/' :: line)).elim text.utf8ByteSize (pos + ·), none) := by
  rw [pieceTurn, String.toList_ofList]
  rfl

theorem pieceTurn_blockComment {comment : List Char}
    (hslice : slice text (pos + 2) text.utf8ByteSize = pure (String.ofList comment)) :
    pieceTurn text steps pos b (String.ofList ('/' :: '*' :: comment)) =
      ((Scan.blockComment comment).map (byteLength ·.1)).elim
        (fail (.unterminatedComment ⟨pos, pos + 2⟩)) fun n => pure (pos + (n + 2), none) := by
  rw [pieceTurn, String.toList_ofList, hslice, ← find?_commentEnd]
  change (find? ['*', '/'] (String.ofList comment).toList).elim
    (fail (.unterminatedComment ⟨pos, pos + 2⟩)) (fun n => pure (pos + n + 4, none)) = _
  rw [String.toList_ofList]
  cases find? ['*', '/'] comment <;> rfl

theorem pieceTurn_define (after : List Char) :
    pieceTurn text steps pos b (String.ofList (':' :: ':' :: '=' :: after)) =
      take text .define pos (pos + 3) := by
  rw [pieceTurn, String.toList_ofList]
  rfl

/-- Where no comment and no `::=` starts, the first byte decides what token it is. -/
theorem pieceTurn_token (hline : ∀ line, c = '/' → rest = '/' :: line → False)
    (hblock : ∀ comment, c = '/' → rest = '*' :: comment → False)
    (hdefine : ∀ after, c = ':' → rest = ':' :: '=' :: after → False) :
    pieceTurn text steps pos b (String.ofList (c :: rest)) =
      tokenTurn text steps pos b (String.ofList (c :: rest)) := by
  have hstart {pattern : List Char} (h : ∀ after, c :: rest ≠ pattern ++ after) :
      ¬ pattern.isPrefixOf (c :: rest) = true := fun hpattern =>
    let ⟨after, hafter⟩ := List.isPrefixOf_iff_prefix.1 hpattern
    h after hafter.symm
  rw [pieceTurn, String.toList_ofList, if_neg (hstart ?_), if_neg (hstart ?_),
    if_neg (hstart ?_)]
  · rintro after hafter
    cases hafter
    exact hdefine after rfl rfl
  · rintro after hafter
    cases hafter
    exact hblock after rfl rfl
  · rintro after hafter
    cases hafter
    exact hline after rfl rfl

variable (h : text.toList = front ++ c :: rest) (hb : Starts b c)
  (hkind : TokenKind.ofChar? c = none) (hsteps : text.utf8ByteSize < steps)
include h hb hkind hsteps

/-- A literal is taken up to its quote. -/
theorem tokenTurn_quoted (hquote : (c = '"' || c = '\'') = true) :
    tokenTurn text steps (byteLength front) b (String.ofList (c :: rest)) =
      ((Scan.quotedBody c rest).map fun p => byteLength front + byteLength (c :: p.1)).elim
        (fail (.unterminatedString ⟨byteLength front, byteLength front + 1⟩))
        (take text .quoted (byteLength front)) := by
  have hascii : c.toNat < 128 ∧ c ≠ '\\' := by
    simp only [Bool.or_eq_true, decide_eq_true_eq] at hquote
    rcases hquote with rfl | rfl <;> decide
  have hbehind : text.toList = (front ++ [c]) ++ rest := by simpa using h
  have hone : byteLength (front ++ [c]) = byteLength front + 1 := by
    rw [byteLength_append, byteLength, utf8Size_of_ascii hascii.1]
    rfl
  have hliteral := literalEnd_eq hascii.1 (byteLength front) hascii.2 hbehind
    (Nat.lt_add_left _ hsteps)
  rw [hone] at hliteral
  obtain rfl := hb.eq_of_ascii hascii.1
  rw [tokenTurn, hkind]
  simp only [Bool.or_eq_true, decide_eq_true_eq] at hquote
  simp only [hquote, if_true, hliteral]
  cases Scan.quotedBody b rest with
  | none => rfl
  | some p =>
      simp only [Option.map_some, Option.elim_some, byteLength, utf8Size_of_ascii hascii.1,
        ← Nat.add_assoc, pure_bind]

theorem tokenTurn_unquoted (hquote : ¬ (c = '"' || c = '\'') = true) :
    tokenTurn text steps (byteLength front) b (String.ofList (c :: rest)) =
      if Text.isIdentStart c then
        take text .ident (byteLength front)
          (byteLength front + byteLength (c :: rest.takeWhile Text.isIdentRest))
      else fail (.unexpectedChar c ⟨byteLength front, byteLength front + c.utf8Size⟩) := by
  have hbyte : ¬ (b = '"' ∨ b = '\'') := by
    intro hbyte
    have hascii : b.toNat < 128 := by rcases hbyte with rfl | rfl <;> decide
    obtain rfl := hb.resolve_right fun hwide => hwide.1 hascii
    exact hquote (by simpa using hbyte)
  rw [tokenTurn, hb.test TokenKind.ofChar? none fun d => ofChar?_wide, hkind]
  simp only [hbyte, if_false, hb.test Text.isIdentStart false fun d => isIdentStart_wide]
  by_cases hident : Text.isIdentStart c = true
  · rw [if_pos hident, if_pos hident, nameEnd_eq h (Nat.lt_add_left _ hsteps),
      List.takeWhile_cons_of_pos (isIdentRest_of_start hident), pure_bind]
  · rw [if_neg hident, if_neg hident, String.toList_ofList]
    rfl

end Pieces

/-- Between two characters, the scanner takes the piece that stands there. -/
theorem scanTurn_eq {steps : Nat} (hsteps : text.utf8ByteSize < steps)
    (h : text.toList = front ++ c :: rest) : scanTurn text steps (byteLength front) =
      Outcome.of (((Scan.nextPiece c rest).map (afterPiece (byteLength front))).mapError
        (Scan.Fault.toError (byteLength front))) := by
  obtain ⟨b, hbyte, hb⟩ := exists_byte h
  rw [scanTurn, hbyte, slice_to_end h]
  simp only [hb.test Text.isAsciiBlank false fun d => isAsciiBlank_wide, pure_bind]
  have hcomment {comment : List Char} (hrest : c :: rest = '/' :: '*' :: comment) :
      slice text (byteLength front + 2) text.utf8ByteSize = pure (String.ofList comment) := by
    have hopening : byteLength (front ++ ['/', '*']) = byteLength front + 2 :=
      byteLength_append ..
    rw [← hopening]
    exact slice_to_end (by simp [h, hrest])
  fun_cases Scan.nextPiece c rest with
  | case1 _ _ hblank =>
      have hone : c.utf8Size = 1 := utf8Size_of_ascii (ascii_of_blank hblank)
      rw [if_pos hblank]
      simp only [Except.map, Except.mapError, Outcome.of, afterPiece, byteLength, hone,
        Option.map_none, Nat.add_zero]
  | case2 line hblank =>
      have hline := find?_newline ('/' :: '/' :: line) (byteLength front)
      rw [← size_of_toList h] at hline
      rw [if_neg hblank, pieceTurn_lineComment, hline]
      rfl
  | case3 comment body after hbody hblank =>
      rw [if_neg hblank, pieceTurn_blockComment (hcomment rfl), hbody]
      have hopening : byteLength ('/' :: '*' :: body) = byteLength body + 2 := by
        rw [Nat.add_comm]
        exact byteLength_append ['/', '*'] body
      simp only [Except.map, Except.mapError, Outcome.of, afterPiece, hopening, Option.map_some,
        Option.elim_some, Option.map_none]
  | case4 comment hbody hblank =>
      rw [if_neg hblank, pieceTurn_blockComment (hcomment rfl), hbody]
      rfl
  | case5 after hblank =>
      rw [if_neg hblank, pieceTurn_define]
      have hchars : text.toList = front ++ ([':', ':', '='] ++ after) := h
      exact take_eq .define hchars
  | case6 _ _ hline hblock hdefine kind hkind hblank =>
      have hone : byteLength [c] = 1 := utf8Size_of_ascii (ascii_of_kind hkind)
      rw [if_neg hblank, pieceTurn_token hline hblock hdefine, tokenTurn,
        hb.test TokenKind.ofChar? none fun d => ofChar?_wide, hkind]
      change take text kind _ _ = _
      rw [← hone]
      exact take_eq kind h
  | case7 _ _ hline hblock hdefine hkind hquote body after hbody hblank =>
      have hchars : text.toList = front ++ ((c :: body) ++ after) := by
        rw [h, List.cons_append, Scan.quotedBody_append hbody]
      rw [if_neg hblank, pieceTurn_token hline hblock hdefine,
        tokenTurn_quoted h hb hkind hsteps hquote, hbody]
      exact take_eq .quoted hchars
  | case8 _ _ hline hblock hdefine hkind hquote hbody hblank =>
      rw [if_neg hblank, pieceTurn_token hline hblock hdefine,
        tokenTurn_quoted h hb hkind hsteps hquote, hbody]
      rfl
  | case9 _ _ hline hblock hdefine hkind hquote hident hblank =>
      have hchars : text.toList = front ++
          ((c :: rest.takeWhile Text.isIdentRest) ++ rest.dropWhile Text.isIdentRest) := by
        rw [h, List.cons_append, List.takeWhile_append_dropWhile]
      rw [if_neg hblank, pieceTurn_token hline hblock hdefine,
        tokenTurn_unquoted h hb hkind hsteps hquote, if_pos hident]
      exact take_eq .ident hchars
  | case10 _ _ hline hblock hdefine hkind hquote hident hblank =>
      rw [if_neg hblank, pieceTurn_token hline hblock hdefine,
        tokenTurn_unquoted h hb hkind hsteps hquote, if_neg hident]
      rfl

end Bytes

/-! ## The loop -/

section Loop

variable {text : String} {front rest : List Char} {c : Char} {piece : Scan.Piece}

theorem toList_behind (h : text.toList = front ++ c :: rest)
    (hpiece : Scan.nextPiece c rest = .ok piece) :
    text.toList = (front ++ piece.chars) ++ piece.rest := by
  rw [h, List.append_assoc, Scan.nextPiece_append hpiece]

theorem byteLength_lt_size (h : text.toList = front ++ c :: rest) :
    byteLength front < text.utf8ByteSize := by
  rw [size_of_toList h]
  exact Nat.lt_add_of_pos_right (Nat.add_pos_left (Char.utf8Size_pos c) _)

section Steps

variable {steps : Nat} (hsteps : text.utf8ByteSize < steps)
include hsteps

theorem scanLoop_piece (h : text.toList = front ++ c :: rest)
    (hpiece : Scan.nextPiece c rest = .ok piece) (left : Nat) (tokens : List Token) :
    scanLoop text steps (left + 1) tokens (byteLength front) =
      scanLoop text steps left (tokens ++ (afterPiece (byteLength front) piece).2.toList)
        (byteLength (front ++ piece.chars)) := by
  rw [scanLoop, if_pos (byteLength_lt_size h), scanTurn_eq hsteps h, hpiece, byteLength_append]
  rfl

/-- The loop finds the tokens that are still to come, and fails where there is no piece. -/
theorem scanLoop_eq {cs : List Char} {left : Nat} (h : text.toList = front ++ cs)
    (hleft : text.utf8ByteSize < byteLength front + left) (tokens : List Token) :
    scanLoop text steps left tokens (byteLength front) =
      Outcome.of ((Scan.scanFrom (byteLength front) cs).map (tokens ++ ·)) := by
  induction left generalizing front cs tokens with
  | zero => exact absurd (byteLength_lt_steps h hleft) (Nat.not_lt_zero _)
  | succ left ih =>
      cases cs with
      | nil =>
          have hend : ¬ byteLength front < text.utf8ByteSize := by
            rw [size_of_toList h]
            exact Nat.lt_irrefl _
          rw [scanLoop, if_neg hend, Scan.scanFrom]
          exact congrArg pure (List.append_nil tokens).symm
      | cons c rest =>
          cases hpiece : Scan.nextPiece c rest with
          | error fault =>
              have hfails : Scan.scanFrom (byteLength front) (c :: rest) =
                  .error (fault.toError (byteLength front)) :=
                Scan.scanFrom_eq_error_iff.2 ⟨[], c, rest, [], fault, rfl, .nil, hpiece, rfl⟩
              rw [scanLoop, if_pos (byteLength_lt_size h), scanTurn_eq hsteps h, hpiece, hfails]
              rfl
          | ok piece =>
              have hbytes := (Scan.fits_of_nextPiece hpiece).byteLength_pos
              have hstop := byteLength_append front piece.chars
              rw [scanLoop_piece hsteps h hpiece, ih (toList_behind h hpiece) (by omega), hstop,
                Scan.scanFrom_piece hpiece]
              cases Scan.scanFrom (byteLength front + byteLength piece.chars) piece.rest with
              | error e => rfl
              | ok ts => cases hkind : piece.kind <;> simp [afterPiece, hkind, Except.map]

end Steps

end Loop

/-- The scanner that keeps a position ends, in bounds, and finds the tokens or the same error. -/
theorem scan_eq {steps : Nat} {text : String} (hsteps : text.utf8ByteSize < steps) :
    scan steps text = Outcome.of (Scan.scan text) := by
  have htext : text.toList = [] ++ text.toList := rfl
  have hmap (r : Except GrammarError (List Token)) : r.map ([] ++ ·) = r := by cases r <;> rfl
  rw [scan, ← hmap (Scan.scan text)]
  exact scanLoop_eq hsteps htext (Nat.lt_add_left _ hsteps) []

/-- A turn of the scanner goes on by a byte or more, from one place between characters to another,
or fails with an error about the text. -/
theorem scanTurn_progress {steps : Nat} {text : String} {pos : Nat}
    (hsteps : text.utf8ByteSize < steps) (hvalid : String.Pos.Raw.IsValid text ⟨pos⟩)
    (hpos : pos < text.utf8ByteSize) :
    Gives (fun r => pos < r.1 ∧ String.Pos.Raw.IsValid text ⟨r.1⟩) (fun _ => True)
      (scanTurn text steps pos) := by
  have hnil : text.toList = [] ++ text.toList := rfl
  obtain ⟨front, cs, htext, hfront⟩ := Span.exists_split hnil hvalid (Nat.zero_le _)
  rw [byteLength, Nat.zero_add] at hfront
  cases cs with
  | nil =>
      rw [size_of_toList htext, hfront] at hpos
      exact absurd hpos (Nat.lt_irrefl _)
  | cons c rest =>
      rw [hfront, scanTurn_eq hsteps htext]
      cases hpiece : Scan.nextPiece c rest with
      | error fault => exact .fails trivial
      | ok piece =>
          have htext' : text.toList = front ++ (piece.chars ++ piece.rest) := by
            rw [toList_behind htext hpiece, List.append_assoc]
          refine .ends ⟨Nat.lt_add_of_pos_right ?_, (Span.isValid_of_toList htext').2⟩
          exact (Scan.fits_of_nextPiece hpiece).byteLength_pos

end GrammarForge.Cursor
