import GrammarForge.Grammar.Error
import GrammarForge.Text.Blank
import GrammarForge.Text.Identifier

/-!
# From text to tokens

The text of a grammar is a sequence of pieces: tokens, blanks and comments. `nextPiece` takes the
piece at the front of a text, and `scan` goes on until the text is used up. Every scanner here
splits its input, so that the characters of the pieces, put together, are the text.
-/

namespace GrammarForge.Scan

inductive Fault where
  | unexpectedChar (found : Char)
  | unterminatedString
  | unterminatedComment
deriving DecidableEq

/-- The error for a fault at byte `pos`. It covers the offending character, or the characters that
open the literal or comment. -/
def Fault.toError (pos : Nat) : Fault → GrammarError
  | .unexpectedChar found => .unexpectedChar found ⟨pos, pos + found.utf8Size⟩
  | .unterminatedString => .unterminatedString ⟨pos, pos + 1⟩
  | .unterminatedComment => .unterminatedComment ⟨pos, pos + 2⟩

/-- The characters at the front of a text that belong together, and the text after them. Blanks and
comments have no kind. -/
structure Piece where
  kind : Option TokenKind
  chars : List Char
  rest : List Char

def blockComment : List Char → Option (List Char × List Char)
  | [] => none
  | '*' :: '/' :: rest => some (['*', '/'], rest)
  | c :: rest => (blockComment rest).map fun (body, after) => (c :: body, after)

/-- Split after the quote that ends a literal. A backslash takes the next character with it, and a
literal does not go over the end of a line otherwise. -/
def quotedBody (quote : Char) : List Char → Option (List Char × List Char)
  | [] => none
  | '\n' :: _ => none
  | ['\\'] => none
  | '\\' :: c :: rest => (quotedBody quote rest).map fun (body, after) => ('\\' :: c :: body, after)
  | c :: rest =>
    if c = quote then some ([c], rest)
    else (quotedBody quote rest).map fun (body, after) => (c :: body, after)

def nextPiece (c : Char) (rest : List Char) : Except Fault Piece :=
  if Text.isAsciiBlank c then .ok ⟨none, [c], rest⟩
  else
    match c, rest with
    | '/', '/' :: line =>
      .ok ⟨none, '/' :: '/' :: line.takeWhile (· ≠ '\n'), line.dropWhile (· ≠ '\n')⟩
    | '/', '*' :: comment =>
      match blockComment comment with
      | some (body, after) => .ok ⟨none, '/' :: '*' :: body, after⟩
      | none => .error .unterminatedComment
    | ':', ':' :: '=' :: after => .ok ⟨some .define, [':', ':', '='], after⟩
    | c, rest =>
      match TokenKind.ofChar? c with
      | some kind => .ok ⟨some kind, [c], rest⟩
      | none =>
        if c = '"' || c = '\'' then
          match quotedBody c rest with
          | some (body, after) => .ok ⟨some .quoted, c :: body, after⟩
          | none => .error .unterminatedString
        else if Text.isIdentStart c then
          .ok ⟨some .ident, c :: rest.takeWhile Text.isIdentRest, rest.dropWhile Text.isIdentRest⟩
        else .error (.unexpectedChar c)

theorem blockComment_append {cs body after : List Char}
    (h : blockComment cs = some (body, after)) : body ++ after = cs := by
  fun_induction blockComment cs generalizing body with
  | case1 => simp at h
  | case2 rest => simp at h; obtain ⟨rfl, rfl⟩ := h; rfl
  | case3 c rest _ ih =>
    simp only [Option.map_eq_some_iff, Prod.exists, Prod.mk.injEq] at h
    obtain ⟨b, a, hb, rfl, rfl⟩ := h
    simp [ih hb]

theorem quotedBody_append {quote : Char} {cs body after : List Char}
    (h : quotedBody quote cs = some (body, after)) : body ++ after = cs := by
  fun_induction quotedBody quote cs generalizing body with
  | case1 => simp at h
  | case2 => simp at h
  | case3 => simp at h
  | case4 c rest ih =>
    simp only [Option.map_eq_some_iff, Prod.exists, Prod.mk.injEq] at h
    obtain ⟨b, a, hb, rfl, rfl⟩ := h
    simp [ih hb]
  | case5 => simp at h; obtain ⟨rfl, rfl⟩ := h; rfl
  | case6 c rest _ _ _ _ ih =>
    simp only [Option.map_eq_some_iff, Prod.exists, Prod.mk.injEq] at h
    obtain ⟨b, a, hb, rfl, rfl⟩ := h
    simp [ih hb]

theorem nextPiece_append {c : Char} {rest : List Char} {p : Piece}
    (h : nextPiece c rest = .ok p) : p.chars ++ p.rest = c :: rest := by
  unfold nextPiece at h
  split at h
  · cases h; rfl
  · split at h
    · cases h; simp [List.takeWhile_append_dropWhile]
    · split at h
      · rename_i hb
        cases h; simp [blockComment_append hb]
      · cases h
    · cases h; rfl
    · split at h
      · cases h; rfl
      · split at h
        · split at h
          · rename_i hb
            cases h; simp [quotedBody_append hb]
          · cases h
        · split at h
          · cases h; simp [List.takeWhile_append_dropWhile]
          · cases h

theorem nextPiece_chars_ne_nil {c : Char} {rest : List Char} {p : Piece}
    (h : nextPiece c rest = .ok p) : p.chars ≠ [] := by
  unfold nextPiece at h
  repeat' split at h
  all_goals cases h
  all_goals simp

theorem nextPiece_rest_length {c : Char} {rest : List Char} {p : Piece}
    (h : nextPiece c rest = .ok p) : p.rest.length < (c :: rest).length := by
  have happ := congrArg List.length (nextPiece_append h)
  have hpos := List.length_pos_iff.2 (nextPiece_chars_ne_nil h)
  simp only [List.length_append] at happ
  omega

/-- The tokens of a text whose first byte is byte `pos` of the grammar. -/
def scanFrom (pos : Nat) (cs : List Char) : Except GrammarError (List Token) :=
  match cs with
  | [] => .ok []
  | c :: rest =>
    match _h : nextPiece c rest with
    | .error fault => .error (fault.toError pos)
    | .ok piece =>
      let stop := pos + byteLength piece.chars
      match scanFrom stop piece.rest with
      | .error e => .error e
      | .ok tokens =>
        match piece.kind with
        | none => .ok tokens
        | some kind => .ok (⟨kind, String.ofList piece.chars, ⟨pos, stop⟩⟩ :: tokens)
termination_by cs.length
decreasing_by exact nextPiece_rest_length _h

def scan (text : String) : Except GrammarError (List Token) := scanFrom 0 text.toList

end GrammarForge.Scan
