import GrammarForge.Code.Condition
import GrammarForge.Proofs.Grammar.ScannedTokens

/-!
# Lexemes of generated code

Code is read one character at a time: the state between two characters is what has been read of the
lexeme at hand. Reading one text after another is therefore reading their concatenation, and a text
can be read piece by piece wherever no lexeme goes over the end of a piece. String literals are
decoded, and decoding undoes `Text.literal`.
-/

namespace GrammarForge.Code

inductive Lexeme where
  | word (text : String)
  | sign (text : String)
  /-- A string literal that denotes this text. -/
  | text (text : String)
deriving DecidableEq

/-- What has been read of a lexeme. Characters are kept last one first. -/
inductive Mode where
  | ready
  | word (read : List Char)
  /-- A sign that can go on with another character. -/
  | sign (first : Char)
  | text (read : List Char)
  /-- In a literal, after a backslash. -/
  | escape (read : List Char)
  /-- After `\u`. -/
  | opening (read : List Char)
  /-- Between the braces of an escaped code point. -/
  | code (read : List Char) (value : Nat)

/-- The value of a hexadecimal digit. -/
def hexValue? (c : Char) : Option Nat :=
  if '0' ≤ c ∧ c ≤ '9' then some (c.toNat - '0'.toNat)
  else if 'a' ≤ c ∧ c ≤ 'f' then some (c.toNat - 'a'.toNat + 10)
  else if 'A' ≤ c ∧ c ≤ 'F' then some (c.toNat - 'A'.toNat + 10)
  else none

/-- The character that a letter after a backslash stands for. -/
def escaped? : Char → Option Char
  | '0' => some '\x00'
  | 't' => some '\t'
  | 'r' => some '\r'
  | 'n' => some '\n'
  | '\\' => some '\\'
  | '\'' => some '\''
  | '"' => some '"'
  | _ => none

/-- The signs of two characters. -/
def pairs : List (Char × Char) := [(':', ':'), ('&', '&'), ('|', '|'), ('=', '='), ('-', '>')]

/-- The signs of one character that never go on. -/
def marks : List Char := ['(', ')', '\x7b', '\x7d', '.', ',', ';', '!']

/-- Read the first character of a lexeme, or a blank between lexemes. -/
def start (c : Char) : Option (Mode × List Lexeme) :=
  if c = ' ' || c = '\n' then some (.ready, [])
  else if Text.isIdentStart c then some (.word [c], [])
  else if c = '"' then some (.text [], [])
  else if pairs.any (·.1 = c) then some (.sign c, [])
  else if marks.contains c then some (.ready, [.sign (String.singleton c)])
  else none

/-- Complete the lexeme at hand; a literal has to be closed. -/
def Mode.finish : Mode → Option (List Lexeme)
  | .ready => some []
  | .word read => some [.word (String.ofList read.reverse)]
  | .sign first => some [.sign (String.singleton first)]
  | _ => none

/-- Read a character. The result is the next state and the lexemes that have become complete. -/
def Mode.step (mode : Mode) (c : Char) : Option (Mode × List Lexeme) :=
  match mode with
  | .ready => start c
  | .word read =>
    if Text.isIdentRest c then some (.word (c :: read), [])
    else (start c).map fun (next, out) => (next, .word (String.ofList read.reverse) :: out)
  | .sign first =>
    if pairs.contains (first, c) then some (.ready, [.sign (String.ofList [first, c])])
    else (start c).map fun (next, out) => (next, .sign (String.singleton first) :: out)
  | .text read =>
    if c = '"' then some (.ready, [.text (String.ofList read.reverse)])
    else if c = '\\' then some (.escape read, [])
    else some (.text (c :: read), [])
  | .escape read =>
    if c = 'u' then some (.opening read, [])
    else (escaped? c).map fun d => (.text (d :: read), [])
  | .opening read => if c = '\x7b' then some (.code read 0, []) else none
  | .code read value =>
    if c = '\x7d' then some (.text (Char.ofNat value :: read), [])
    else (hexValue? c).map fun digit => (.code read (16 * value + digit), [])

/-- Read a text. -/
def Mode.run (mode : Mode) : List Char → Option (Mode × List Lexeme)
  | [] => some (mode, [])
  | c :: rest => do
    let (next, out) ← mode.step c
    let (last, more) ← next.run rest
    return (last, out ++ more)

/-- The lexemes of a text. -/
def lex (s : String) : Option (List Lexeme) := do
  let (last, out) ← Mode.run .ready s.toList
  let tail ← last.finish
  return out ++ tail

theorem Mode.run_cons {mode next last : Mode} {c : Char} {cs : List Char} {out more : List Lexeme}
    (hc : mode.step c = some (next, out)) (hcs : next.run cs = some (last, more)) :
    mode.run (c :: cs) = some (last, out ++ more) := by
  simp [run, hc, hcs]

theorem Mode.run_append {mode next last : Mode} {cs ds : List Char} {out more : List Lexeme}
    (hcs : mode.run cs = some (next, out)) (hds : next.run ds = some (last, more)) :
    mode.run (cs ++ ds) = some (last, out ++ more) := by
  induction cs generalizing mode out with
  | nil =>
      cases hcs
      exact hds
  | cons c cs ih =>
      simp only [run, bind, Option.bind_eq_some_iff] at hcs
      obtain ⟨⟨middle, first⟩, hstep, ⟨_, rest⟩, hrun, heq⟩ := hcs
      cases heq
      rw [List.cons_append, List.append_assoc]
      exact run_cons hstep (ih hrun)

/-- The text consists of these lexemes, the last of which is complete. -/
def Closes (s : String) (ls : List Lexeme) : Prop := Mode.run .ready s.toList = some (.ready, ls)

/-- The text consists of these lexemes, if the last one ends with it. -/
def Lexes (s : String) (ls : List Lexeme) : Prop :=
  ∃ last out tail, Mode.run .ready s.toList = some (last, out) ∧ last.finish = some tail ∧
    ls = out ++ tail

theorem Closes.lexes {s : String} {ls : List Lexeme} (h : Closes s ls) : Lexes s ls :=
  ⟨.ready, ls, [], h, rfl, (List.append_nil ls).symm⟩

theorem lex_eq_some {s : String} {ls : List Lexeme} (h : Lexes s ls) : lex s = some ls := by
  obtain ⟨last, out, tail, hrun, hfinish, rfl⟩ := h
  simp [lex, hrun, hfinish]

theorem Closes.append {s t : String} {ls ms : List Lexeme} (hs : Closes s ls) (ht : Closes t ms) :
    Closes (s ++ t) (ls ++ ms) := by
  rw [Closes, String.toList_append]
  exact Mode.run_append hs ht

theorem Closes.append_lexes {s t : String} {ls ms : List Lexeme} (hs : Closes s ls)
    (ht : Lexes t ms) : Lexes (s ++ t) (ls ++ ms) := by
  obtain ⟨last, out, tail, hrun, hfinish, rfl⟩ := ht
  refine ⟨last, ls ++ out, tail, ?_, hfinish, (List.append_assoc ..).symm⟩
  rw [String.toList_append]
  exact Mode.run_append hs hrun

/-- A character that is part of no word and is second in no sign. -/
def EndsLexeme (c : Char) : Prop := Text.isIdentRest c = false ∧ pairs.all (·.2 ≠ c) = true

theorem step_of_endsLexeme {mode next : Mode} {c : Char} {tail out : List Lexeme}
    (hc : EndsLexeme c) (hmode : mode.finish = some tail) (hstart : start c = some (next, out)) :
    mode.step c = some (next, tail ++ out) := by
  cases mode with
  | ready =>
      cases hmode
      exact hstart
  | word read =>
      cases hmode
      simp [Mode.step, hc.1, hstart]
  | sign first =>
      cases hmode
      have hpair : (first, c) ∉ pairs := by
        intro hmem
        have hne := List.all_eq_true.1 hc.2 _ hmem
        simp at hne
      simp [Mode.step, hpair, hstart]
  | _ => cases hmode

/-- A lexeme is complete where the next text cannot go on with it. -/
theorem Lexes.append {s t : String} {ls ms : List Lexeme} (hs : Lexes s ls) {c : Char}
    {rest : List Char} (ht : t.toList = c :: rest) (hc : EndsLexeme c) (h : Closes t ms) :
    Closes (s ++ t) (ls ++ ms) := by
  obtain ⟨last, out, tail, hrun, hfinish, rfl⟩ := hs
  rw [Closes, ht] at h
  simp only [Mode.run, bind, Option.bind_eq_some_iff] at h
  obtain ⟨⟨middle, first⟩, hstep, ⟨_, more⟩, hmore, heq⟩ := h
  cases heq
  have hcs := Mode.run_cons (step_of_endsLexeme hc hfinish hstep) hmore
  rw [Closes, String.toList_append, ht, List.append_assoc, ← List.append_assoc tail]
  exact Mode.run_append hrun hcs

theorem run_word (read : List Char) {cs : List Char} (h : ∀ c ∈ cs, Text.isIdentRest c = true) :
    Mode.run (.word read) cs = some (.word (cs.reverse ++ read), []) := by
  induction cs generalizing read with
  | nil => rfl
  | cons c cs ih =>
      have hc : Mode.step (.word read) c = some (.word (c :: read), []) := by
        simp [Mode.step, h c (by simp)]
      have hcs := ih (c :: read) fun d hd => h d (by simp [hd])
      rw [List.reverse_cons, List.append_assoc]
      exact Mode.run_cons hc hcs

theorem start_of_isIdentStart {c : Char} (h : Text.isIdentStart c = true) :
    start c = some (.word [c], []) := by
  have hne (d : Char) (hd : Text.isIdentStart d = false) : c ≠ d := by
    rintro rfl
    simp [h] at hd
  simp [start, hne ' ' rfl, hne '\n' rfl, h]

theorem lexes_word {s : String} (h : IsWord s.toList) : Lexes s [.word s] := by
  obtain ⟨c, rest, hs, hc, hrest⟩ := h
  refine ⟨.word (rest.reverse ++ [c]), [], [.word s], ?_, ?_, rfl⟩
  · have hstep : Mode.step .ready c = some (.word [c], []) := start_of_isIdentStart hc
    rw [hs]
    exact Mode.run_cons hstep (run_word [c] hrest)
  · simp [Mode.finish, ← hs]

theorem step_digitChar (read : List Char) (value : Nat) {digit : Nat} (h : digit < 16) :
    Mode.step (.code read value) digit.digitChar = some (.code read (16 * value + digit), []) := by
  have hvalue : hexValue? digit.digitChar = some digit := by
    revert digit
    decide
  have hne : digit.digitChar ≠ '\x7d' := by
    intro heq
    rw [heq] at hvalue
    exact absurd hvalue (by simp [hexValue?])
  simp [Mode.step, hne, hvalue]

theorem run_toDigits (read : List Char) (n : Nat) :
    Mode.run (.code read 0) (Nat.toDigits 16 n) = some (.code read n, []) := by
  induction n using Nat.strong_induction_on with
  | _ n ih =>
      by_cases hn : n < 16
      · have hstep := step_digitChar read 0 hn
        rw [Nat.mul_zero, Nat.zero_add] at hstep
        rw [Nat.toDigits_of_lt_base hn]
        exact Mode.run_cons hstep rfl
      · have hdiv : n / 16 < n := by omega
        have hstep := step_digitChar read (n / 16) (Nat.mod_lt n (by decide))
        rw [Nat.div_add_mod] at hstep
        rw [Nat.toDigits_of_base_le (by decide) (by omega)]
        exact Mode.run_append (ih (n / 16) hdiv) (Mode.run_cons hstep rfl)

theorem run_escapeChar (read : List Char) (c : Char) :
    Mode.run (.text read) (Text.escapeChar c) = some (.text (c :: read), []) := by
  unfold Text.escapeChar
  split_ifs with h₀ h₁ h₂ h₃ h₄ h₅
  · subst h₀; rfl
  · subst h₁; rfl
  · subst h₂; rfl
  · subst h₃; rfl
  · subst h₄; rfl
  · subst h₅; rfl
  · have hstep : Mode.step (.text read) c = some (.text (c :: read), []) := by
      simp [Mode.step, h₄, h₅]
    exact Mode.run_cons hstep rfl
  · have hopen : Mode.run (.text read) ['\\', 'u', '\x7b'] = some (.code read 0, []) := rfl
    have hclose : Mode.run (.code read c.toNat) ['\x7d'] = some (.text (c :: read), []) := by
      simp [Mode.run, Mode.step, Char.ofNat_toNat]
    exact Mode.run_append (Mode.run_append hopen (run_toDigits read c.toNat)) hclose

theorem run_escaped (read cs : List Char) :
    Mode.run (.text read) (cs.flatMap Text.escapeChar) = some (.text (cs.reverse ++ read), []) := by
  induction cs generalizing read with
  | nil => rfl
  | cons c cs ih =>
      rw [List.flatMap_cons, List.reverse_cons, List.append_assoc]
      exact Mode.run_append (run_escapeChar read c) (ih (c :: read))

/-- A string literal denotes the text that it was made from. -/
theorem closes_literal (s : String) : Closes (Text.literal s) [.text s] := by
  have hopen : Mode.run .ready ['"'] = some (.text [], []) := rfl
  have hclose : Mode.run (.text (s.toList.reverse ++ [])) ['"'] = some (.ready, [.text s]) := by
    simp [Mode.run, Mode.step]
  rw [Closes, Text.literal, String.toList_ofList]
  exact Mode.run_append (Mode.run_append hopen (run_escaped [] s.toList)) hclose

end GrammarForge.Code
