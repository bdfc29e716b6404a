import GrammarForge.Code.Names
import GrammarForge.Proofs.Grammar.ScannedTokens
import Mathlib

/-!
# Generated names are words

Words of a grammar are in ASCII, and change of case and of word breaks keeps them so. The functions
and the variants that are named after them are therefore words as well.
-/

namespace GrammarForge

namespace Text

/-- A property of all ASCII characters can be checked one by one. -/
theorem forall_ascii (p : Char → Prop) (h : ∀ n < 128, p (Char.ofNat n)) {c : Char}
    (hc : c.toNat < 128) : p c := by
  have hp := h c.toNat hc
  rwa [Char.ofNat_toNat] at hp

theorem isAscii_of_isIdentRest {c : Char} (h : isIdentRest c = true) : c.toNat < 128 := by
  simp only [isIdentRest, Char.isAlphanum, Char.isAlpha, Char.isUpper, Char.isLower, Char.isDigit,
    Bool.or_eq_true, Bool.and_eq_true, decide_eq_true_eq, UInt32.le_iff_toNat_le] at h
  rcases h with ((h | h) | h) | rfl
  · exact Nat.lt_of_le_of_lt h.2 (by decide)
  · exact Nat.lt_of_le_of_lt h.2 (by decide)
  · exact Nat.lt_of_le_of_lt h.2 (by decide)
  · decide

theorem ne_hyphen_of_isIdentRest {c : Char} (h : isIdentRest c = true) : c ≠ '-' := by
  rintro rfl
  exact absurd h (by decide)

theorem isIdentRest_toLower {c : Char} (h : isIdentRest c = true) :
    isIdentRest c.toLower = true := by
  have hall {d : Char} := forall_ascii (c := d)
    (fun c => isIdentRest c = true → isIdentRest c.toLower = true) (by decide)
  exact hall (isAscii_of_isIdentRest h) h

theorem isIdentRest_toUpper {c : Char} (h : isIdentRest c = true) :
    isIdentRest c.toUpper = true := by
  have hall {d : Char} := forall_ascii (c := d)
    (fun c => isIdentRest c = true → isIdentRest c.toUpper = true) (by decide)
  exact hall (isAscii_of_isIdentRest h) h

theorem lower_of_isAscii {c : Char} (h : isAscii c = true) : lower c = [c.toLower] := if_pos h

theorem upper_of_isIdentRest {c : Char} (h : isIdentRest c = true) : upper c = [c.toUpper] := by
  rw [upper, if_pos (by simpa [isAscii] using isAscii_of_isIdentRest h)]

/-- All characters are in ASCII. -/
def AllAscii (cs : List Char) : Prop := ∀ c ∈ cs, isAscii c = true

@[simp] theorem allAscii_cons (c : Char) (cs : List Char) :
    AllAscii (c :: cs) ↔ isAscii c = true ∧ AllAscii cs := by
  simp [AllAscii]

@[simp] theorem allAscii_append (cs ds : List Char) :
    AllAscii (cs ++ ds) ↔ AllAscii cs ∧ AllAscii ds := by
  simp [AllAscii, or_imp, forall_and]

/-- All characters can stand in a word. -/
def AllIdent (cs : List Char) : Prop := ∀ c ∈ cs, isIdentRest c = true

@[simp] theorem allIdent_nil : AllIdent [] := by simp [AllIdent]

@[simp] theorem allIdent_cons (c : Char) (cs : List Char) :
    AllIdent (c :: cs) ↔ isIdentRest c = true ∧ AllIdent cs := by
  simp [AllIdent]

@[simp] theorem allIdent_append (cs ds : List Char) :
    AllIdent (cs ++ ds) ↔ AllIdent cs ∧ AllIdent ds := by
  simp [AllIdent, or_imp, forall_and]

theorem AllIdent.allAscii {cs : List Char} (h : AllIdent cs) : AllAscii cs :=
  fun c hc => decide_eq_true (isAscii_of_isIdentRest (h c hc))

/-- Snake case goes character by character in ASCII, with underscores between them. -/
theorem snakeChars_cons_of_ne_hyphen {c : Char} (h : isAscii c = true) (hhyphen : c ≠ '-')
    (prev : Option Char) (cs : List Char) : snakeChars prev (c :: cs) =
      (if startsWord prev c cs.head? then ['_'] else []) ++
        c.toLower :: snakeChars (some c) cs := by
  rw [snakeChars, if_neg hhyphen, lower_of_isAscii h, List.append_assoc, List.singleton_append]

theorem snakeChars_cons_of_isIdentRest {c : Char} (h : isIdentRest c = true)
    (prev : Option Char) (cs : List Char) : snakeChars prev (c :: cs) =
      (if startsWord prev c cs.head? then ['_'] else []) ++
        c.toLower :: snakeChars (some c) cs :=
  snakeChars_cons_of_ne_hyphen (decide_eq_true (isAscii_of_isIdentRest h))
    (ne_hyphen_of_isIdentRest h) prev cs

theorem allIdent_snakeChars {cs : List Char} (h : AllIdent cs) (prev : Option Char) :
    AllIdent (snakeChars prev cs) := by
  induction cs generalizing prev with
  | nil => exact allIdent_nil
  | cons c cs ih =>
      rw [allIdent_cons] at h
      have hrest := ih h.2 (some c)
      have hunderscore : isIdentRest '_' = true := by decide
      rw [snakeChars_cons_of_isIdentRest h.1]
      split <;> simp [hunderscore, isIdentRest_toLower h.1, hrest]

theorem allIdent_pascalChars {cs : List Char} (h : AllIdent cs) (atStart : Bool) :
    AllIdent (pascalChars atStart cs) := by
  induction cs generalizing atStart with
  | nil => exact allIdent_nil
  | cons c cs ih =>
      rw [allIdent_cons] at h
      rw [pascalChars]
      split
      · exact ih h.2 true
      · rw [upper_of_isIdentRest h.1]
        split <;> simp [isIdentRest_toUpper h.1, h.1, ih h.2 false]

/-- Lower case goes character by character in ASCII. -/
theorem lowerChars_of_allAscii {cs : List Char} (h : AllAscii cs) (before : List Char) :
    lowerChars before cs = cs.map Char.toLower := by
  induction cs generalizing before with
  | nil => rfl
  | cons c cs ih =>
      rw [allAscii_cons] at h
      have hsigma : c ≠ 'Σ' := by
        rintro rfl
        exact absurd h.1 (by decide)
      rw [lowerChars, if_neg hsigma, lower_of_isAscii h.1, ih h.2]
      rfl

theorem lowerChars_of_allIdent {cs : List Char} (h : AllIdent cs) (before : List Char) :
    lowerChars before cs = cs.map Char.toLower := lowerChars_of_allAscii h.allAscii before

theorem allIdent_lowerChars {cs : List Char} (h : AllIdent cs) (before : List Char) :
    AllIdent (lowerChars before cs) := by
  rw [lowerChars_of_allIdent h]
  intro c hc
  obtain ⟨d, hd, rfl⟩ := List.mem_map.1 hc
  exact isIdentRest_toLower (h d hd)

end Text

namespace Code

theorem isWord_parseFunction {rule : String} (h : Text.AllIdent rule.toList) :
    IsWord (parseFunction rule).toList := by
  have hsnake := Text.allIdent_snakeChars h none
  refine ⟨'p', "arse_".toList ++ Text.snakeChars none rule.toList, ?_, by decide, ?_⟩
  · simp [parseFunction, Text.snakeCase]
  · exact (Text.allIdent_append ..).2 ⟨List.all_eq_true.1 (by decide), hsnake⟩

theorem isWord_of_isIdentifier {name : String} (h : Text.isIdentifier name = true) :
    IsWord name.toList := by
  unfold Text.isIdentifier Text.isIdentifierChars at h
  split at h
  · cases h
  · rename_i c rest hs
    simp only [Bool.and_eq_true, List.all_eq_true] at h
    exact ⟨c, rest, hs, h.1.1, h.1.2⟩

theorem isIdentifier_of_isReserved {name : String} (h : Text.isReserved name = true) :
    Text.isIdentifier name = true := by
  have hall : ∀ word ∈ Text.reservedWords, Text.isIdentifier word = true := by decide
  exact hall name (List.contains_iff_mem.1 h)

theorem isWord_of_isReserved {name : String} (h : Text.isReserved name = true) :
    IsWord name.toList := isWord_of_isIdentifier (isIdentifier_of_isReserved h)

theorem isWord_variantName {name : String} (h : Text.AllIdent name.toList) :
    IsWord (variantName name).toList := by
  unfold variantName
  split
  · obtain ⟨c, rest, hname, hc, hrest⟩ := isWord_of_isReserved ‹_›
    refine ⟨c, rest ++ ['_'], by simp [hname], hc, ?_⟩
    exact (Text.allIdent_append ..).2 ⟨hrest, List.all_eq_true.1 (by decide)⟩
  · split
    · exact isWord_of_isIdentifier ‹_›
    · exact ⟨'V', name.toList, by simp, by decide, h⟩

theorem isWord_elementVariant {rule : String} (h : Text.AllIdent rule.toList) :
    IsWord (elementVariant rule).toList := by
  refine isWord_variantName ?_
  rw [Text.pascalCase, String.toList_ofList]
  exact Text.allIdent_pascalChars h true

theorem isWord_tokenVariant {token : String} (h : Text.AllIdent token.toList) :
    IsWord (tokenVariant token).toList := by
  refine isWord_variantName ?_
  rw [Text.pascalCase, String.toList_ofList, Text.lowerText, String.toList_ofList]
  exact Text.allIdent_pascalChars (Text.allIdent_lowerChars h []) true

end Code

end GrammarForge
