/-!
# Quoted text in TOML

Four kinds of quoted text: between quotation marks, where a backslash starts an escape, or between
apostrophes, where it does not, and either way on one line between single marks or on several lines
between marks written three times. Text is read one character at a time by a machine with few
states.
-/

namespace GrammarForge.Toml

structure Quoting where
  mark : Char
  /-- Whether the mark stands there three times. -/
  isLong : Bool
  /-- Whether a backslash starts an escape. -/
  hasEscapes : Bool

/-- Characters that may stand in text and in comments: the tab and what is no control character. -/
def isTextChar (c : Char) : Bool := c = '\t' || (0x20 ≤ c.toNat && c.toNat ≠ 0x7F)

def simpleEscape? : Char → Option Char
  | 'b' => some '\x08'
  | 't' => some '\t'
  | 'n' => some '\n'
  | 'f' => some '\x0c'
  | 'r' => some '\r'
  | 'e' => some '\x1b'
  | '"' => some '"'
  | '\\' => some '\\'
  | _ => none

def codeLength? : Char → Option Nat
  | 'x' => some 2
  | 'u' => some 4
  | 'U' => some 8
  | _ => none

def digitValue? (base : Nat) (c : Char) : Option Nat :=
  let value? : Option Nat :=
    if '0' ≤ c ∧ c ≤ '9' then some (c.toNat - '0'.toNat)
    else if 'a' ≤ c ∧ c ≤ 'f' then some (c.toNat - 'a'.toNat + 10)
    else if 'A' ≤ c ∧ c ≤ 'F' then some (c.toNat - 'A'.toNat + 10)
    else none
  value?.filter (· < base)

inductive TextState where
  | plain
  | escape
  | code (left value : Nat)
  /-- After a backslash at the end of a line, where blanks are skipped. The end of the line may
  still be ahead. -/
  | lineEnd (passed : Bool)
  /-- After so many marks that may turn out to be the end. -/
  | marks (count : Nat)

inductive TextStep where
  | go (added : List Char) (next : TextState)
  /-- The text ends with this character, or right before it. -/
  | stop (added : List Char) (isRead : Bool)
  | fail

/-- Put characters in front of what a step adds. -/
def TextStep.after (before : List Char) : TextStep → TextStep
  | go added next => .go (before ++ added) next
  | stop added isRead => .stop (before ++ added) isRead
  | fail => .fail

namespace Quoting

def stepPlain (q : Quoting) (c : Char) : TextStep :=
  if c = q.mark then (if q.isLong then .go [] (.marks 1) else .stop [] true)
  else if c = '\\' && q.hasEscapes then .go [] .escape
  else if isTextChar c || (q.isLong && (c = '\n' || c = '\r')) then .go [c] .plain
  else .fail

def stepEscape (q : Quoting) (c : Char) : TextStep :=
  match simpleEscape? c, codeLength? c with
  | some d, _ => .go [d] .plain
  | none, some n => .go [] (.code n 0)
  | none, none =>
    if q.isLong && (c = ' ' || c = '\t' || c = '\r' || c = '\n') then .go [] (.lineEnd (c = '\n'))
    else .fail

def stepCode (left value : Nat) (c : Char) : TextStep :=
  match digitValue? 16 c with
  | none => .fail
  | some d =>
    let value := value * 16 + d
    if 1 < left then .go [] (.code (left - 1) value)
    else if value.isValidChar then .go [Char.ofNat value] .plain
    else .fail

def step (q : Quoting) : TextState → Char → TextStep
  | .plain, c => q.stepPlain c
  | .escape, c => q.stepEscape c
  | .code left value, c => stepCode left value c
  | .lineEnd passed, c =>
    if c = ' ' || c = '\t' || c = '\r' then .go [] (.lineEnd passed)
    else if c = '\n' then .go [] (.lineEnd true)
    else if passed then q.stepPlain c
    else .fail
  | .marks count, c =>
    if c = q.mark then (if count < 5 then .go [] (.marks (count + 1)) else .fail)
    else if 3 ≤ count then .stop (List.replicate (count - 3) q.mark) false
    else (q.stepPlain c).after (List.replicate count q.mark)

/-- Read text up to the marks at its end. The result is the text and what follows. -/
def read (q : Quoting) : TextState → List Char → Option (List Char × List Char)
  | .marks count, [] =>
    if 3 ≤ count then some (List.replicate (count - 3) q.mark, []) else none
  | _, [] => none
  | state, c :: rest =>
    match q.step state c with
    | .go added next => (q.read next rest).map fun (text, after) => (added ++ text, after)
    | .stop added true => some (added, rest)
    | .stop added false => some (added, c :: rest)
    | .fail => none

theorem length_le_of_read {q : Quoting} {state : TextState} {chars text after : List Char}
    (h : q.read state chars = some (text, after)) : after.length ≤ chars.length := by
  induction chars generalizing state text with
  | nil =>
    cases state <;> simp only [read, reduceCtorEq] at h
    split at h
    · simp_all
    · simp at h
  | cons c rest ih =>
    rw [read] at h
    · split at h
      · obtain ⟨⟨t, a⟩, ht, he⟩ := Option.map_eq_some_iff.1 h
        obtain ⟨-, rfl⟩ := Prod.mk.inj he
        have := ih ht
        simp only [List.length_cons]
        omega
      · obtain ⟨-, rfl⟩ := Prod.mk.inj (Option.some.inj h)
        simp
      · obtain ⟨-, rfl⟩ := Prod.mk.inj (Option.some.inj h)
        simp
      · simp at h

end Quoting

end GrammarForge.Toml
