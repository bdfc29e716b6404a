import GrammarForge.Proofs.Grammar.PrintedText

/-!
# Line breaks in printed expressions

A printed expression shows the characters of its literals as they are. All others are those of
words, brackets and operators, so a line ends in the printed form exactly if one ends in a literal.
-/

namespace GrammarForge

/-- Nothing in the text ends a line. -/
def Unbroken (s : String) : Prop := ∀ c ∈ s.toList, c ≠ '\n' ∧ c ≠ '\r'

instance (s : String) : Decidable (Unbroken s) :=
  decidable_of_iff (s.toList.all fun c => c ≠ '\n' && c ≠ '\r') (by simp [Unbroken])

@[simp] theorem unbroken_append (s t : String) : Unbroken (s ++ t) ↔ Unbroken s ∧ Unbroken t := by
  simp only [Unbroken, String.toList_append, List.mem_append, or_imp, forall_and]
  tauto

theorem unbroken_of_forall {s : String} {p : Char → Bool} (hs : ∀ c ∈ s.toList, p c = true)
    (hn : p '\n' = false) (hr : p '\r' = false) : Unbroken s := by
  intro c hc
  constructor
  · rintro rfl
    exact Bool.false_ne_true (hn.symm.trans (hs _ hc))
  · rintro rfl
    exact Bool.false_ne_true (hr.symm.trans (hs _ hc))

/-- A word has no line breaks. -/
theorem IsWord.unbroken {s : String} (h : IsWord s.toList) : Unbroken s :=
  unbroken_of_forall h.all rfl rfl

namespace Expr

/-- A character that is printed only as part of a literal. -/
def IsForeign (c : Char) : Prop :=
  Text.isIdentRest c = false ∧ c ∉ [' ', '|', '*', '+', '(', ')', '[', ']', '\'', '\\']

variable {c : Char}

theorem mem_escape (hc : IsForeign c) (cs : List Char) : c ∈ Quoted.escape cs ↔ c ∈ cs := by
  have hb : c ≠ '\\' := fun h => hc.2 (by simp [h])
  induction cs with
  | nil => rfl
  | cons d cs ih =>
      rw [Quoted.escape]
      split <;> simp [ih, hb]

theorem mem_parenthesize (hc : IsForeign c) (needed : Bool) (cs : List Char) :
    c ∈ parenthesize needed cs ↔ c ∈ cs := by
  have ho : c ≠ '(' := fun h => hc.2 (by simp [h])
  have hcl : c ≠ ')' := fun h => hc.2 (by simp [h])
  unfold parenthesize
  split <;> simp [ho, hcl]

theorem not_mem_word (hc : IsForeign c) {cs : List Char} (h : IsWord cs) : c ∉ cs := by
  intro hmem
  exact Bool.false_ne_true (hc.1.symm.trans (h.all c hmem))

mutual

/-- A foreign character is in the printed form of an expression only if it is in a literal. -/
theorem mem_chars (hc : IsForeign c) : (e : Expr) → e.IsNormal →
    (c ∈ e.chars ↔ ∃ text ∈ e.literals, c ∈ text.toList)
  | .choice es, h => mem_alternativesChars hc es h.2
  | .sequence es, h => mem_itemsChars hc es h.2
  | .optional e, h => by
      have ho : c ≠ '[' := fun h => hc.2 (by simp [h])
      have hcl : c ≠ ']' := fun h => hc.2 (by simp [h])
      rw [chars, literals, ← mem_chars hc e h]
      simp [ho, hcl]
  | .zeroOrMore e, h => by
      have hs : c ≠ '*' := fun h => hc.2 (by simp [h])
      rw [chars, literals, ← mem_chars hc e h]
      simp [hs, mem_parenthesize hc]
  | .oneOrMore e, h => by
      have hs : c ≠ '+' := fun h => hc.2 (by simp [h])
      rw [chars, literals, ← mem_chars hc e h]
      simp [hs, mem_parenthesize hc]
  | .reference name, h => by simpa [chars, literals] using not_mem_word hc h.1
  | .token name, h => by simpa [chars, literals] using not_mem_word hc h.1
  | .literal text, _ => by
      have hq : c ≠ '\'' := fun h => hc.2 (by simp [h])
      simp [chars, literals, Quoted.quote, hq, mem_escape hc]

theorem mem_itemsChars (hc : IsForeign c) : (es : List Expr) → AreNormal es →
    (c ∈ itemsChars es ↔ ∃ text ∈ literalsOf es, c ∈ text.toList)
  | [], _ => by simp [itemsChars, literalsOf]
  | e :: es, h => by
      have hb : c ≠ ' ' := fun h => hc.2 (by simp [h])
      have ih := mem_itemsChars hc es h.2
      rw [itemsChars, literalsOf, List.mem_append, mem_parenthesize hc, mem_chars hc e h.1]
      cases es with
      | nil => simp [literalsOf]
      | cons => simp [hb, ih, or_and_right, exists_or]

theorem mem_alternativesChars (hc : IsForeign c) : (es : List Expr) → AreNormal es →
    (c ∈ alternativesChars es ↔ ∃ text ∈ literalsOf es, c ∈ text.toList)
  | [], _ => by simp [alternativesChars, literalsOf]
  | e :: es, h => by
      have hb : c ≠ ' ' := fun h => hc.2 (by simp [h])
      have hp : c ≠ '|' := fun h => hc.2 (by simp [h])
      have ih := mem_alternativesChars hc es h.2
      rw [alternativesChars, literalsOf, List.mem_append, mem_parenthesize hc, mem_chars hc e h.1]
      cases es with
      | nil => simp [literalsOf]
      | cons => simp [hb, hp, ih, or_and_right, exists_or]

end

/-- The printed form of an expression has a line break only if a literal has one. -/
theorem unbroken_display {e : Expr} (he : e.IsNormal) :
    Unbroken e.display ↔ ∀ text ∈ e.literals, Unbroken text := by
  have hlf := mem_chars ⟨rfl, by decide⟩ (c := '\n') e he
  have hcr := mem_chars ⟨rfl, by decide⟩ (c := '\r') e he
  rw [display, Unbroken, String.toList_ofList]
  constructor
  · intro h text htext c hc
    constructor
    · rintro rfl
      exact (h _ (hlf.2 ⟨text, htext, hc⟩)).1 rfl
    · rintro rfl
      exact (h _ (hcr.2 ⟨text, htext, hc⟩)).2 rfl
  · intro h c hc
    constructor
    · rintro rfl
      obtain ⟨text, htext, hmem⟩ := hlf.1 hc
      exact (h text htext _ hmem).1 rfl
    · rintro rfl
      obtain ⟨text, htext, hmem⟩ := hcr.1 hc
      exact (h text htext _ hmem).2 rfl

end Expr

end GrammarForge
