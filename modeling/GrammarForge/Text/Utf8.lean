/-!
# Bytes as text

Text that may have been cut in the middle of a character, or that never was UTF-8, is shown with a
replacement character for every longest piece that could have become a character.
-/

namespace GrammarForge.Text

/-- What the first byte of a character says: how many bytes follow, between which bounds the next
one lies, and the bits that the first byte contributes. -/
structure Lead where
  following : Nat
  low : Nat
  high : Nat
  bits : Nat

def lead? (b : Nat) : Option Lead :=
  if 0xC2 ≤ b && b ≤ 0xDF then some ⟨1, 0x80, 0xBF, b - 0xC0⟩
  else if b = 0xE0 then some ⟨2, 0xA0, 0xBF, 0⟩
  else if b = 0xED then some ⟨2, 0x80, 0x9F, 0xD⟩
  else if 0xE1 ≤ b && b ≤ 0xEF then some ⟨2, 0x80, 0xBF, b - 0xE0⟩
  else if b = 0xF0 then some ⟨3, 0x90, 0xBF, 0⟩
  else if 0xF1 ≤ b && b ≤ 0xF3 then some ⟨3, 0x80, 0xBF, b - 0xF0⟩
  else if b = 0xF4 then some ⟨3, 0x80, 0x8F, 4⟩
  else none

/-- The code point that goes on with the given bytes, if all of them are there, and how many bytes
belong to it. -/
def continuation (l : Lead) : Nat → List UInt8 → Option Nat × Nat
  | code, [] => (if l.following = 0 then some code else none, 0)
  | code, b :: rest =>
    if l.following = 0 then (some code, 0)
    else if l.low ≤ b.toNat && b.toNat ≤ l.high then
      let (result, used) :=
        continuation ⟨l.following - 1, 0x80, 0xBF, 0⟩ (code * 64 + (b.toNat - 0x80)) rest
      (result, used + 1)
    else (none, 0)

def lossyChars (bytes : List UInt8) : List Char :=
  match bytes with
  | [] => []
  | b :: rest =>
    if b.toNat < 0x80 then Char.ofNat b.toNat :: lossyChars rest
    else
      match lead? b.toNat with
      | none => '\ufffd' :: lossyChars rest
      | some l =>
        let (code, used) := continuation l l.bits rest
        code.elim '\ufffd' Char.ofNat :: lossyChars (rest.drop used)
termination_by bytes.length
decreasing_by all_goals simp; try omega

def lossy (bytes : List UInt8) : String := String.ofList (lossyChars bytes)

end GrammarForge.Text
