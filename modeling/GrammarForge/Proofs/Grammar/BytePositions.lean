import GrammarForge.Proofs.Grammar.ErrorPlaces
import Mathlib

/-!
# Positions in bytes

A program that reads a text by position looks at single bytes and takes slices. Nothing in such a
program says that it comes to an end or that its slices exist: where a slice does not, it stops, and
where it is not over after a number of steps, it is cut off. That it ends means that from some
number on more steps make no difference. Between two characters, what the program sees are the bytes
of the next one, and ASCII can be told from the first of them.
-/

namespace GrammarForge.Cursor

/-- Why a program that keeps a position stops without a result. -/
inductive Stop where
  /-- It takes a slice or an element that is not there. -/
  | outOfBounds
  | failed (error : GrammarError)

/-- What a program that keeps a position comes to. One that is cut off comes to `none`. -/
abbrev Outcome (α : Type) := ExceptT Stop Option α

namespace Outcome

/-- The program is not over after the steps that it was given. -/
def unfinished {α : Type} : Outcome α := ExceptT.mk none

def fail {α : Type} (e : GrammarError) : Outcome α := throw (.failed e)

/-- The program ends, within bounds, with this result or this error. -/
def of {α : Type} : Except GrammarError α → Outcome α
  | .ok a => pure a
  | .error e => fail e

/-- The program ends, within bounds, with a result of the one kind or an error of the other. -/
inductive Gives {α : Type} (result : α → Prop) (error : GrammarError → Prop) : Outcome α → Prop
  | ends {a : α} : result a → Gives result error (pure a)
  | fails {e : GrammarError} : error e → Gives result error (fail e)

section Gives

variable {α β : Type} {result : α → Prop} {error error' : GrammarError → Prop}

theorem Gives.bind {result' : β → Prop} {o : Outcome α} {f : α → Outcome β}
    (h : Gives result error o) (hf : ∀ a, result a → Gives result' error' (f a))
    (herror : ∀ e, error e → error' e) : Gives result' error' (o >>= f) := by
  cases h with
  | ends ha => exact hf _ ha
  | fails he => exact .fails (herror _ he)

theorem Gives.mono {result' : α → Prop} {o : Outcome α} (h : Gives result error o)
    (hresult : ∀ a, result a → result' a) (herror : ∀ e, error e → error' e) :
    Gives result' error' o := by
  cases h with
  | ends ha => exact .ends (hresult _ ha)
  | fails he => exact .fails (herror _ he)

end Gives

end Outcome

open Outcome

instance (s : Span) (text : String) : Decidable (s.IsIn text) :=
  decidable_of_iff (s.start ≤ s.stop ∧ s.stop ≤ text.utf8ByteSize ∧
      String.Pos.Raw.IsValid text ⟨s.start⟩ ∧ String.Pos.Raw.IsValid text ⟨s.stop⟩)
    ⟨fun h => ⟨h.1, h.2.1, h.2.2⟩, fun h => ⟨h.ordered, h.inBounds, h.isValid⟩⟩

/-- A slice of the text, which must be in bounds and between characters. -/
def slice (text : String) (start stop : Nat) : Outcome String :=
  if Span.IsIn ⟨start, stop⟩ text then pure (Span.slice ⟨start, stop⟩ text)
  else throw .outOfBounds

/-- The byte at a position, as the character with this code. -/
def byte? (text : String) (pos : Nat) : Option Char :=
  text.toByteArray.data[pos]?.map Char.ofUInt8

/-- The bytes of a text are those of its characters. -/
theorem toList_data (text : String) :
    text.toByteArray.data.toList = text.toList.flatMap String.utf8EncodeChar := by
  rw [← String.ofList_toList (s := text), String.toByteArray_ofList, List.utf8Encode,
    List.data_toByteArray, String.toList_ofList]

theorem length_flatMap_encode (cs : List Char) :
    (cs.flatMap String.utf8EncodeChar).length = byteLength cs := by
  induction cs with
  | nil => rfl
  | cons c cs ih => rw [List.flatMap_cons, List.length_append, ih, String.length_utf8EncodeChar,
      byteLength]

theorem size_of_toList {text : String} {front cs : List Char} (h : text.toList = front ++ cs) :
    text.utf8ByteSize = byteLength front + byteLength cs := by
  rw [← byteLength_toList, h, byteLength_append]

section Bytes

variable {text : String} {front rest : List Char} {c : Char}

theorem byte?_of_toList {cs : List Char} (h : text.toList = front ++ cs) (k : Nat) :
    byte? text (byteLength front + k) =
      (cs.flatMap String.utf8EncodeChar)[k]?.map Char.ofUInt8 := by
  rw [byte?, ← Array.getElem?_toList, toList_data, h, List.flatMap_append, ← length_flatMap_encode,
    List.getElem?_append_right (Nat.le_add_right ..), Nat.add_sub_cancel_left]

theorem byte?_eq_none {pos : Nat} (h : text.utf8ByteSize ≤ pos) : byte? text pos = none := by
  have hsize : text.toList = text.toList ++ [] := by simp
  obtain ⟨k, rfl⟩ := Nat.exists_eq_add_of_le h
  rw [← byteLength_toList, byte?_of_toList hsize]
  rfl

theorem byte?_end (h : text.toList = front ++ []) : byte? text (byteLength front) = none :=
  byte?_of_toList h 0

/-- A character of ASCII is its only byte. -/
theorem byte?_ascii (h : text.toList = front ++ c :: rest) (hc : c.toNat < 128) :
    byte? text (byteLength front) = some c := by
  have hval : c.val.toNat ≤ 127 := Nat.le_of_lt_succ hc
  have hcode : Char.ofUInt8 c.val.toUInt8 = c := by
    apply Char.ext
    apply UInt32.toNat_inj.1
    change c.val.toNat % 256 = c.val.toNat
    omega
  have hone : c.utf8Size = 1 := Char.utf8Size_eq_one_iff.2 (UInt32.le_iff_toNat_le.2 hval)
  have hbyte := byte?_of_toList h 0
  rw [List.flatMap_cons, String.utf8EncodeChar_eq_singleton hone, List.singleton_append,
    List.getElem?_cons_zero, Option.map_some, hcode] at hbyte
  exact hbyte

/-- No byte of another character is in ASCII. -/
theorem not_ascii_of_mem_encode (hc : ¬ c.toNat < 128) {b : UInt8}
    (hb : b ∈ String.utf8EncodeChar c) : ¬ (Char.ofUInt8 b).toNat < 128 := by
  have hval : ¬ c.val.toNat ≤ 127 := fun hle => hc (Nat.lt_succ_of_le hle)
  change ¬ b.toNat < 128
  unfold String.utf8EncodeChar at hb
  simp only [if_neg hval] at hb
  split_ifs at hb <;>
    simp only [List.mem_cons, List.not_mem_nil, or_false] at hb <;>
    rcases hb with rfl | rfl | rfl | rfl <;>
    simp only [UInt8.toNat_ofNat'] <;> omega

theorem byte?_wide (h : text.toList = front ++ c :: rest) (hc : ¬ c.toNat < 128) {k : Nat}
    (hk : k < c.utf8Size) : ∃ b, byte? text (byteLength front + k) = some b ∧ ¬ b.toNat < 128 := by
  rw [← String.length_utf8EncodeChar] at hk
  refine ⟨_, ?_, not_ascii_of_mem_encode hc (List.getElem_mem hk)⟩
  rw [byte?_of_toList h, List.flatMap_cons, List.getElem?_append_left hk,
    List.getElem?_eq_getElem hk]
  rfl

/-- The byte starts the character, as far as ASCII can tell. -/
def Starts (b c : Char) : Prop := b = c ∨ ¬ b.toNat < 128 ∧ ¬ c.toNat < 128

theorem Starts.eq_of_ascii {b c : Char} (h : Starts b c) (hc : c.toNat < 128) : b = c :=
  h.resolve_right fun hwide => hwide.2 hc

/-- A test that is the same for all characters outside of ASCII can be made on the first byte. -/
theorem Starts.test {α : Type} {b c : Char} (h : Starts b c) (p : Char → α) (other : α)
    (hp : ∀ d : Char, ¬ d.toNat < 128 → p d = other) : p b = p c := by
  rcases h with rfl | ⟨hb, hc⟩
  · rfl
  · rw [hp b hb, hp c hc]

theorem exists_byte (h : text.toList = front ++ c :: rest) :
    ∃ b, byte? text (byteLength front) = some b ∧ Starts b c := by
  by_cases hc : c.toNat < 128
  · exact ⟨c, byte?_ascii h hc, .inl rfl⟩
  · obtain ⟨b, hbyte, hb⟩ := byte?_wide h hc (Char.utf8Size_pos c)
    exact ⟨b, hbyte, .inr ⟨hb, hc⟩⟩

theorem ne_of_not_ascii {b d : Char} (hb : ¬ b.toNat < 128) (hd : d.toNat < 128) : b ≠ d := by
  rintro rfl
  exact hb hd

theorem slice_of_toList {mid : List Char} (h : text.toList = front ++ (mid ++ rest)) :
    slice text (byteLength front) (byteLength front + byteLength mid) =
      pure (String.ofList mid) := by
  have hvalid := Span.isValid_of_toList h
  have hin : Span.IsIn ⟨byteLength front, byteLength front + byteLength mid⟩ text :=
    ⟨Nat.le_add_right .., hvalid.stop_le, hvalid⟩
  rw [slice, if_pos hin, Span.slice_of_toList h]

theorem slice_to_end {cs : List Char} (h : text.toList = front ++ cs) :
    slice text (byteLength front) text.utf8ByteSize = pure (String.ofList cs) := by
  have hsplit : text.toList = front ++ (cs ++ []) := by rw [h, List.append_nil]
  rw [size_of_toList h, slice_of_toList hsplit]

end Bytes

end GrammarForge.Cursor
