import GrammarForge.Toml.Quoted

/-!
# Tokens of TOML

A document is a sequence of punctuation marks, ends of lines, blanks, quoted texts and words, which
are everything else. Comments only separate tokens. Each token is taken from the front of the
characters, and what is left is shorter, so that scanning comes to an end.
-/

namespace GrammarForge.Toml

inductive Token where
  | mark (c : Char)
  | newline
  /-- All blanks up to the next token. -/
  | blank (content : String)
  | text (content : String) (isLong : Bool)
  | word (content : String)
deriving DecidableEq

namespace Token

def isMark (c : Char) : Bool := ['.', '=', ',', '[', ']', '\x7b', '\x7d'].contains c

/-- Blanks within a line. A carriage return stands only at the end of a line. -/
def isBlank (c : Char) : Bool := c = ' ' || c = '\t' || c = '\r'

/-- Characters that may stand in a word. Quotes may, but not at its front. -/
def isWordChar (c : Char) : Bool := !(isMark c || isBlank c || c = '\n' || c = '#')

def skipFirstNewline : List Char → List Char
  | '\n' :: rest => rest
  | '\r' :: '\n' :: rest => rest
  | chars => chars

/-- The first character and the others are part of a token or of a comment. The result is the token,
if it is one, and what follows. -/
def next? (c : Char) (rest : List Char) : Option (Option Token × List Char) :=
  if c = '"' || c = '\'' then
    let hasEscapes := c = '"'
    if [c, c].isPrefixOf rest then
      (Quoting.read ⟨c, true, hasEscapes⟩ .plain (skipFirstNewline (rest.drop 2))).map
        fun (content, after) => (some (text (String.ofList content) true), after)
    else
      (Quoting.read ⟨c, false, hasEscapes⟩ .plain rest).map
        fun (content, after) => (some (text (String.ofList content) false), after)
  else if c = '\n' then some (some newline, rest)
  else if isBlank c then
    some (some (blank (String.ofList (c :: rest.takeWhile isBlank))), rest.dropWhile isBlank)
  else if isMark c then some (some (mark c), rest)
  else if c = '#' then
    let comment := rest.takeWhile (· ≠ '\n')
    if comment.all fun d => isTextChar d || d = '\r' then some (none, rest.dropWhile (· ≠ '\n'))
    else none
  else
    some (some (word (String.ofList (c :: rest.takeWhile isWordChar))), rest.dropWhile isWordChar)

theorem length_skipFirstNewline (chars : List Char) :
    (skipFirstNewline chars).length ≤ chars.length := by
  unfold skipFirstNewline
  split
  · simp
  · simp only [List.length_cons]
    omega
  · exact Nat.le_refl _

theorem length_dropWhile_le (p : Char → Bool) (chars : List Char) :
    (chars.dropWhile p).length ≤ chars.length :=
  (List.dropWhile_sublist p).length_le

theorem length_le_of_next? {c : Char} {rest after : List Char} {t : Option Token}
    (h : next? c rest = some (t, after)) : after.length ≤ rest.length := by
  have short {q : Quoting} {s : TextState} {chars : List Char} {b : Bool}
      (hr : (q.read s chars).map (fun (content, after) =>
        (some (text (String.ofList content) b), after)) = some (t, after)) :
      after.length ≤ chars.length := by
    obtain ⟨⟨content, a⟩, hread, he⟩ := Option.map_eq_some_iff.1 hr
    obtain ⟨-, rfl⟩ := Prod.mk.inj he
    exact Quoting.length_le_of_read hread
  unfold next? at h
  split at h
  · dsimp only at h
    split at h
    · have h1 := short h
      have h2 := length_skipFirstNewline (rest.drop 2)
      simp only [List.length_drop] at h2
      omega
    · exact short h
  · split at h
    · simp_all
    · split at h
      · obtain ⟨-, rfl⟩ := Prod.mk.inj (Option.some.inj h)
        exact length_dropWhile_le _ _
      · split at h
        · simp_all
        · split at h
          · dsimp only at h
            split at h
            · obtain ⟨-, rfl⟩ := Prod.mk.inj (Option.some.inj h)
              exact length_dropWhile_le _ _
            · simp at h
          · obtain ⟨-, rfl⟩ := Prod.mk.inj (Option.some.inj h)
            exact length_dropWhile_le _ _

def scanChars (chars : List Char) : Option (List Token) :=
  match chars with
  | [] => some []
  | c :: rest =>
    match _h : next? c rest with
    | none => none
    | some (t, after) => (scanChars after).map (t.toList ++ ·)
termination_by chars.length
decreasing_by
  have := length_le_of_next? _h
  simp only [List.length_cons]
  omega

def returnsPaired : List Char → Bool
  | [] => true
  | '\r' :: rest => rest.head? = some '\n' && returnsPaired rest
  | _ :: rest => returnsPaired rest

def skipByteOrderMark : List Char → List Char
  | '\ufeff' :: rest => rest
  | chars => chars

def scan (document : String) : Option (List Token) :=
  let chars := skipByteOrderMark document.toList
  if returnsPaired chars then scanChars chars else none

end Token

end GrammarForge.Toml
