import GrammarForge.Proofs.Code.Identifiers
import GrammarForge.Proofs.Grammar.NormalForm
import GrammarForge.Proofs.Text.WordBreaks

/-!
# Which names stay distinct

Generated code changes the letter case and the word breaks of the names in a grammar, and names that
differ may become the same. Variants are the same where the names are the same in pascal case, and
where a `V` is put in front of one that the other starts with. Names of words in lower case that
start with a letter, with one underscore between words, can be read back, so that these stay
distinct.
-/

namespace GrammarForge

namespace Text

/-- Words of lower case letters and digits that start with a letter, with one underscore between
them; `atStart` tells whether the next character starts a word. -/
def isPlainChars (atStart : Bool) : List Char → Bool
  | [] => !atStart
  | c :: rest =>
    if c = '_' then !atStart && isPlainChars true rest
    else (c.isLower || (!atStart && c.isDigit)) && isPlainChars false rest

def isPlain (name : String) : Bool := isPlainChars true name.toList

/-- A capital starts a word. -/
def recoverChar (c : Char) : List Char := if c.isUpper then ['_', c.toLower] else [c]

/-- A character of a plain name that is no underscore. -/
structure IsPlainChar (c : Char) : Prop where
  isIdentRest : isIdentRest c = true
  noBreak : isWordBreak c = false
  noUpper : c.isUpper = false

theorem isPlainChar_of_isLower {c : Char} (h : c.isLower = true) : IsPlainChar c := by
  have hrest : isIdentRest c = true := by simp [isIdentRest, Char.isAlphanum, Char.isAlpha, h]
  have hall {d : Char} := forall_ascii (c := d) (fun c => c.isLower = true →
    isWordBreak c = false ∧ c.isUpper = false) (by decide)
  obtain ⟨hbreak, hupper⟩ := hall (isAscii_of_isIdentRest hrest) h
  exact ⟨hrest, hbreak, hupper⟩

theorem isPlainChar_of_isDigit {c : Char} (h : c.isDigit = true) : IsPlainChar c := by
  have hrest : isIdentRest c = true := by simp [isIdentRest, Char.isAlphanum, h]
  have hall {d : Char} := forall_ascii (c := d) (fun c => c.isDigit = true →
    isWordBreak c = false ∧ c.isUpper = false) (by decide)
  obtain ⟨hbreak, hupper⟩ := hall (isAscii_of_isIdentRest hrest) h
  exact ⟨hrest, hbreak, hupper⟩

/-- A letter is raised to a capital, which is read back as the letter and the start of a word. -/
theorem recoverChar_toUpper {c : Char} (h : c.isLower = true) :
    recoverChar c.toUpper = ['_', c] := by
  have hall {d : Char} := forall_ascii (c := d)
    (fun c => c.isLower = true → recoverChar c.toUpper = ['_', c]) (by decide)
  exact hall (isAscii_of_isIdentRest (isPlainChar_of_isLower h).isIdentRest) h

theorem pascalChars_recover {atStart : Bool} {cs : List Char}
    (h : isPlainChars atStart cs = true) :
    (pascalChars atStart cs).flatMap recoverChar = if atStart then '_' :: cs else cs := by
  induction cs generalizing atStart with
  | nil =>
      obtain rfl : atStart = false := by simpa [isPlainChars] using h
      rfl
  | cons c cs ih =>
      rw [isPlainChars] at h
      split at h
      · rename_i hc
        subst hc
        obtain ⟨hstart, hrest⟩ : atStart = false ∧ isPlainChars true cs = true := by simpa using h
        subst hstart
        have hbreak : isWordBreak '_' = true := rfl
        rw [pascalChars, if_pos hbreak]
        exact ih hrest
      · obtain ⟨hc, hrest⟩ : (c.isLower = true ∨ atStart = false ∧ c.isDigit = true) ∧
            isPlainChars false cs = true := by simpa using h
        have hplain : IsPlainChar c :=
          hc.elim isPlainChar_of_isLower fun hdigit => isPlainChar_of_isDigit hdigit.2
        rw [pascalChars, if_neg (by simp [hplain.noBreak]), List.flatMap_append, ih hrest]
        cases atStart with
        | true =>
            have hlower : c.isLower = true := by simpa using hc
            simp [upper_of_isIdentRest hplain.isIdentRest, recoverChar_toUpper hlower]
        | false => simp [recoverChar, hplain.noUpper]

/-- Words without capitals stay as they are in snake case. -/
theorem snakeCase_eq_self {name : String} (h : AllIdent name.toList)
    (hupper : ∀ c ∈ name.toList, c.isUpper = false) : snakeCase name = name := by
  have hsettled : ∀ c ∈ name.toList, IsSettled c := fun c hc =>
    isSettled_of_isIdentRest (h c hc) (hupper c hc)
  rw [snakeCase, snakeChars_eq_self hsettled, String.ofList_toList]

/-- Plain names are read back from pascal case. -/
theorem pascalCase_injective {a b : String} (ha : isPlain a = true) (hb : isPlain b = true)
    (h : pascalCase a = pascalCase b) : a = b := by
  have hrecover {s : String} (hs : isPlain s = true) :
      (pascalCase s).toList.flatMap recoverChar = '_' :: s.toList := by
    rw [pascalCase, String.toList_ofList]
    exact pascalChars_recover hs
  have hchars := congrArg (fun s => s.toList.flatMap recoverChar) h
  simp only [hrecover ha, hrecover hb, List.cons.injEq, true_and] at hchars
  exact String.toList_inj.1 hchars

theorem isPlainChar_of_mem {atStart : Bool} {cs : List Char} (h : isPlainChars atStart cs = true) :
    ∀ c ∈ cs, c = '_' ∨ IsPlainChar c := by
  induction cs generalizing atStart with
  | nil => simp
  | cons c cs ih =>
      rw [isPlainChars] at h
      rw [List.forall_mem_cons]
      split at h
      · obtain ⟨-, hrest⟩ : atStart = false ∧ isPlainChars true cs = true := by simpa using h
        exact ⟨.inl ‹_›, ih hrest⟩
      · obtain ⟨hc, hrest⟩ : (c.isLower = true ∨ atStart = false ∧ c.isDigit = true) ∧
            isPlainChars false cs = true := by simpa using h
        exact ⟨.inr (hc.elim isPlainChar_of_isLower fun hdigit => isPlainChar_of_isDigit hdigit.2),
          ih hrest⟩

theorem allIdent_of_isPlain {name : String} (h : isPlain name = true) : AllIdent name.toList := by
  intro c hc
  rcases isPlainChar_of_mem h c hc with rfl | hplain
  · rfl
  · exact hplain.isIdentRest

/-- Plain names are what they are in snake case. -/
theorem snakeCase_of_isPlain {name : String} (h : isPlain name = true) : snakeCase name = name := by
  refine snakeCase_eq_self (allIdent_of_isPlain h) fun c hc => ?_
  rcases isPlainChar_of_mem h c hc with rfl | hplain
  · rfl
  · exact hplain.noUpper

/-- A plain name starts with a letter, and so it does in pascal case. -/
theorem isIdentifier_pascalCase {name : String} (h : isPlain name = true) :
    isIdentifier (pascalCase name) = true := by
  obtain ⟨c, cs, hname, hlower⟩ : ∃ c cs, name.toList = c :: cs ∧ c.isLower = true := by
    cases hname : name.toList with
    | nil => simp [isPlain, hname, isPlainChars] at h
    | cons c cs =>
        have hc : c ≠ '_' := by
          rintro rfl
          simp [isPlain, hname, isPlainChars] at h
        simp only [isPlain, hname, isPlainChars, if_neg hc, Bool.not_true, Bool.false_and,
          Bool.or_false, Bool.and_eq_true] at h
        exact ⟨c, cs, rfl, h.1⟩
  have hc := isPlainChar_of_isLower hlower
  have hall {d : Char} := forall_ascii (c := d)
    (fun c => c.isLower = true → isIdentStart c.toUpper = true ∧ c.toUpper ≠ '_') (by decide)
  obtain ⟨hstart, hunderscore⟩ := hall (isAscii_of_isIdentRest hc.isIdentRest) hlower
  have hident : AllIdent (c :: cs) := hname ▸ allIdent_of_isPlain h
  have hrest : (pascalChars false cs).all isIdentRest = true :=
    List.all_eq_true.2 (allIdent_pascalChars ((allIdent_cons c cs).1 hident).2 false)
  rw [isIdentifier, pascalCase, String.toList_ofList, hname, pascalChars,
    if_neg (by simp [hc.noBreak]), upper_of_isIdentRest hc.isIdentRest]
  simp [isIdentifierChars, hstart, hunderscore, hrest]

/-- There are no word breaks in pascal case. -/
theorem noBreak_pascalChars {cs : List Char} (h : AllIdent cs) (atStart : Bool) :
    ∀ c ∈ pascalChars atStart cs, isWordBreak c = false := by
  induction cs generalizing atStart with
  | nil => simp [pascalChars]
  | cons c cs ih =>
      obtain ⟨hc, hrest⟩ := (allIdent_cons c cs).1 h
      rw [pascalChars]
      split
      · exact ih hrest true
      · rename_i hbreak
        have hbreak : isWordBreak c = false := by simpa using hbreak
        have hall {d : Char} := forall_ascii (c := d)
          (fun c => isWordBreak c = false → isWordBreak c.toUpper = false) (by decide)
        have hupper := hall (isAscii_of_isIdentRest hc) hbreak
        rw [List.forall_mem_append, upper_of_isIdentRest hc]
        refine ⟨?_, ih hrest false⟩
        split
        · simpa using hupper
        · simpa using hbreak

/-- A token has no letters in lower case, so that it is read back from lower case. -/
theorem lowerText_injective {s t : String} (hs : AllIdent s.toList) (ht : AllIdent t.toList)
    (hsLower : ∀ c ∈ s.toList, ¬ c.isLower) (htLower : ∀ c ∈ t.toList, ¬ c.isLower)
    (h : lowerText s = lowerText t) : s = t := by
  have hall {c : Char} := forall_ascii (c := c) (fun c => ¬ c.isLower → c.toLower.toUpper = c)
    (by decide)
  have hraise {r : String} (hr : AllIdent r.toList) (hlower : ∀ c ∈ r.toList, ¬ c.isLower) :
      (lowerText r).toList.map Char.toUpper = r.toList := by
    rw [lowerText, String.toList_ofList, lowerChars_of_allIdent hr, List.map_map]
    exact (List.map_congr_left fun c hc =>
      hall (isAscii_of_isIdentRest (hr c hc)) (hlower c hc)).trans (List.map_id _)
  rw [← String.toList_inj, ← hraise hs hsLower, ← hraise ht htLower, h]

end Text

namespace Code

/-- Two names give the same variant: they are the same, or one starts with a `V` that is put in
front of the other. -/
def SameVariant (p q : String) : Prop :=
  p = q ∨ (Text.isIdentifier p = false ∧ q = "V" ++ p) ∨
    (Text.isIdentifier q = false ∧ p = "V" ++ q)

instance (p q : String) : Decidable (SameVariant p q) :=
  inferInstanceAs (Decidable (p = q ∨ (Text.isIdentifier p = false ∧ q = "V" ++ p) ∨
    (Text.isIdentifier q = false ∧ p = "V" ++ q)))

/-- Names as they are made up of words: there are no word breaks left. -/
structure IsCompound (name : String) : Prop where
  ident : Text.AllIdent name.toList
  underscore : '_' ∉ name.toList

theorem isCompound_pascalCase {name : String} (h : Text.AllIdent name.toList) :
    IsCompound (Text.pascalCase name) := by
  refine ⟨?_, ?_⟩
  · rw [Text.pascalCase, String.toList_ofList]
    exact Text.allIdent_pascalChars h true
  · rw [Text.pascalCase, String.toList_ofList]
    exact fun hmem => absurd (Text.noBreak_pascalChars h true _ hmem) (by decide)

theorem variantName_of_not_isIdentifier {name : String} (h : Text.isIdentifier name = false) :
    variantName name = "V" ++ name := by
  have hreserved : ¬ Text.isReserved name = true := fun hreserved =>
    Bool.eq_false_iff.1 h (isIdentifier_of_isReserved hreserved)
  rw [variantName, if_neg hreserved, if_neg (Bool.eq_false_iff.1 h)]

/-- What is put in front of a name makes an identifier of it that is not reserved. -/
theorem variantName_prefixed {name : String} (h : Text.AllIdent name.toList) :
    variantName ("V" ++ name) = "V" ++ name := by
  have hreserved : ¬ Text.isReserved ("V" ++ name) = true := by
    have hall : ∀ word ∈ Text.reservedWords, word.toList.head? ≠ some 'V' := by decide
    intro hmem
    rw [Text.isReserved, List.contains_iff_mem] at hmem
    exact hall _ hmem (by simp)
  have hident : Text.isIdentifier ("V" ++ name) = true := by
    have hstart : Text.isIdentStart 'V' = true := by decide
    have hrest : name.toList.all Text.isIdentRest = true := List.all_eq_true.2 h
    simp [Text.isIdentifier, Text.isIdentifierChars, hstart, hrest]
  rw [variantName, if_neg hreserved, if_pos hident]

/-- Only a reserved word gets an underscore. -/
theorem underscore_mem_variantName {name : String} (h : IsCompound name) :
    '_' ∈ (variantName name).toList ↔ Text.isReserved name = true := by
  unfold variantName
  split
  · simp [*]
  · split <;> simp [*, h.underscore]

theorem SameVariant.variantName_eq {p q : String} (hp : IsCompound p) (hq : IsCompound q)
    (h : SameVariant p q) : variantName p = variantName q := by
  rcases h with rfl | ⟨hident, rfl⟩ | ⟨hident, rfl⟩
  · rfl
  · rw [variantName_of_not_isIdentifier hident, variantName_prefixed hp.ident]
  · rw [variantName_of_not_isIdentifier hident, variantName_prefixed hq.ident]

theorem sameVariant_of_eq {p q : String} (hp : IsCompound p) (hq : IsCompound q)
    (h : variantName p = variantName q) : SameVariant p q := by
  have hreserved : Text.isReserved p = true ↔ Text.isReserved q = true := by
    rw [← underscore_mem_variantName hp, h, underscore_mem_variantName hq]
  by_cases hboth : Text.isReserved p = true
  · rw [variantName, variantName, if_pos hboth, if_pos (hreserved.1 hboth)] at h
    exact .inl ((String.append_left_inj "_").1 h)
  · rw [variantName, variantName, if_neg hboth, if_neg (hreserved.not.1 hboth)] at h
    split at h <;> split at h
    · exact .inl h
    · exact .inr (.inr ⟨Bool.eq_false_iff.2 ‹_›, h⟩)
    · exact .inr (.inl ⟨Bool.eq_false_iff.2 ‹_›, h.symm⟩)
    · exact .inl ((String.append_right_inj "V").1 h)

/-- Variants are the same where names differ at most in a `V` that one of them gets. -/
theorem variantName_eq_iff {p q : String} (hp : IsCompound p) (hq : IsCompound q) :
    variantName p = variantName q ↔ SameVariant p q :=
  ⟨sameVariant_of_eq hp hq, SameVariant.variantName_eq hp hq⟩

theorem elementVariant_eq_iff {p q : String} (hp : Text.AllIdent p.toList)
    (hq : Text.AllIdent q.toList) :
    elementVariant p = elementVariant q ↔ SameVariant (Text.pascalCase p) (Text.pascalCase q) :=
  variantName_eq_iff (isCompound_pascalCase hp) (isCompound_pascalCase hq)

/-- Plain names give different variants. -/
theorem elementVariant_injective {p q : String} (hp : Text.isPlain p = true)
    (hq : Text.isPlain q = true) (h : elementVariant p = elementVariant q) : p = q := by
  rw [elementVariant_eq_iff (Text.allIdent_of_isPlain hp) (Text.allIdent_of_isPlain hq)] at h
  rcases h with hsame | ⟨hident, -⟩ | ⟨hident, -⟩
  · exact Text.pascalCase_injective hp hq hsame
  · exact absurd (Text.isIdentifier_pascalCase hp) (by simp [hident])
  · exact absurd (Text.isIdentifier_pascalCase hq) (by simp [hident])

theorem parseFunction_eq_iff {p q : String} :
    parseFunction p = parseFunction q ↔ Text.snakeCase p = Text.snakeCase q :=
  String.append_right_inj "parse_"

theorem parseFunction_injective {p q : String} (hp : Text.isPlain p = true)
    (hq : Text.isPlain q = true) (h : parseFunction p = parseFunction q) : p = q := by
  rw [parseFunction_eq_iff] at h
  rwa [Text.snakeCase_of_isPlain hp, Text.snakeCase_of_isPlain hq] at h

end Code

end GrammarForge
