import GrammarForge.Proofs.Code.DistinctNames
import GrammarForge.Proofs.Grammar.NormalForm

/-!
# Names that can be declared

Generated code declares a name as it stands if it is an identifier in ASCII and not reserved. Pascal
case never starts with a letter in lower case, as all reserved words but `Self` do, so this word is
the only one that a variant can be changed for; names of functions hold an underscore, which no
reserved word does.
-/

namespace GrammarForge

namespace Text

/-- Reserved words are in lower case, all but one. -/
theorem isLower_of_mem_reservedWords {word : String} (h : word ∈ reservedWords)
    (hne : word ≠ "Self") : ∀ c ∈ word.toList, c.isLower = true := by
  have hall : ∀ word ∈ reservedWords, word = "Self" ∨ word.toList.all Char.isLower = true := by
    decide
  exact List.all_eq_true.1 ((hall word h).resolve_left hne)

theorem eq_self_of_isReserved {name : String} (h : isReserved name = true)
    (hhead : ∀ c ∈ name.toList.head?, c.isLower = false) : name = "Self" := by
  by_contra hne
  obtain ⟨c, rest, hchars, -⟩ := Code.isWord_of_isReserved h
  have hlower := isLower_of_mem_reservedWords (List.contains_iff_mem.1 h) hne c (by simp [hchars])
  exact absurd hlower (by simp [hhead c (by simp [hchars])])

theorem underscore_notMem_of_isReserved {name : String} (h : isReserved name = true) :
    '_' ∉ name.toList := by
  by_cases hself : name = "Self"
  · exact hself ▸ by decide
  · intro hmem
    exact absurd (isLower_of_mem_reservedWords (List.contains_iff_mem.1 h) hself _ hmem) (by decide)

/-- The first word of a name starts with a capital, if it starts with a letter. -/
theorem head_pascalChars_noLower {cs : List Char} (h : AllIdent cs) :
    ∀ c ∈ (pascalChars true cs).head?, c.isLower = false := by
  induction cs with
  | nil => simp [pascalChars]
  | cons d cs ih =>
      obtain ⟨hd, hrest⟩ := (allIdent_cons d cs).1 h
      rw [pascalChars]
      split
      · exact ih hrest
      · have hall {d : Char} := forall_ascii (c := d)
          (fun c => c.toUpper.isLower = false) (by decide)
        simp [upper_of_isIdentRest hd, hall (isAscii_of_isIdentRest hd)]

end Text

namespace Code

/-- What can be declared as it stands: an ASCII letter or underscore and letters, digits and
underscores after it, which is not the lone underscore and no reserved word. -/
structure IsDeclarable (name : String) : Prop where
  word : IsWord name.toList
  notUnderscore : name ≠ "_"
  notReserved : name ∉ Text.reservedWords

/-- The two checks of names are right. -/
theorem isDeclarable_iff {name : String} : IsDeclarable name ↔
    Text.isIdentifier name = true ∧ Text.isReserved name = false := by
  have hunderscore (c : Char) (rest : List Char) (h : name.toList = c :: rest) :
      name = "_" ↔ c = '_' ∧ rest = [] := by
    rw [← String.toList_inj, h]
    simp
  have hreserved : Text.isReserved name = false ↔ name ∉ Text.reservedWords := by
    simp [Text.isReserved]
  constructor
  · rintro ⟨⟨c, rest, hname, hc, hrest⟩, hne, hnot⟩
    refine ⟨?_, hreserved.2 hnot⟩
    rw [ne_eq, hunderscore c rest hname] at hne
    rw [Text.isIdentifier, hname]
    simpa [Text.isIdentifierChars, hc] using ⟨hrest, not_and_or.1 hne⟩
  · rintro ⟨hident, hnot⟩
    refine ⟨isWord_of_isIdentifier hident, ?_, hreserved.1 hnot⟩
    rintro rfl
    exact absurd hident (by decide)

/-- A variant that needs no change can be declared, and only such a one. -/
theorem variantName_eq_self_iff {name : String} : variantName name = name ↔ IsDeclarable name := by
  rw [isDeclarable_iff, variantName]
  split
  · simp [*, String.ext_iff]
  · split
    · simp [*]
    · simp [*, String.ext_iff]

/-- Names as they are made up of words that are raised. -/
structure IsRaised (name : String) : Prop extends IsCompound name where
  head : ∀ c ∈ name.toList.head?, c.isLower = false

theorem isRaised_pascalCase {name : String} (h : Text.AllIdent name.toList) :
    IsRaised (Text.pascalCase name) := by
  refine ⟨isCompound_pascalCase h, ?_⟩
  rw [Text.pascalCase, String.toList_ofList]
  exact Text.head_pascalChars_noLower h

namespace IsRaised

variable {name : String}

theorem isReserved_iff (h : IsRaised name) : Text.isReserved name = true ↔ name = "Self" :=
  ⟨fun hreserved => Text.eq_self_of_isReserved hreserved h.head, fun hself => hself ▸ by decide⟩

/-- The change for a variant needs to be made only once. -/
theorem isDeclarable_variantName (h : IsRaised name) : IsDeclarable (variantName name) := by
  rw [← variantName_eq_self_iff]
  by_cases hreserved : Text.isReserved name = true
  · rw [h.isReserved_iff.1 hreserved]
    decide
  · by_cases hident : Text.isIdentifier name = true
    · have hsame : variantName name = name := by rw [variantName, if_neg hreserved, if_pos hident]
      rw [hsame, hsame]
    · rw [variantName_of_not_isIdentifier (Bool.eq_false_iff.2 hident),
        variantName_prefixed h.ident]

theorem underscore_mem_iff (h : IsRaised name) :
    '_' ∈ (variantName name).toList ↔ variantName name = "Self_" := by
  rw [underscore_mem_variantName h.toIsCompound, h.isReserved_iff]
  refine ⟨fun hself => hself ▸ by decide, fun hvariant => ?_⟩
  have hmem : '_' ∈ (variantName name).toList := hvariant ▸ by decide
  exact h.isReserved_iff.1 ((underscore_mem_variantName h.toIsCompound).1 hmem)

end IsRaised

theorem isDeclarable_parseFunction {rule : String} (h : Text.AllIdent rule.toList) :
    IsDeclarable (parseFunction rule) := by
  have hunderscore : '_' ∈ (parseFunction rule).toList := by simp [parseFunction]
  refine ⟨isWord_parseFunction h, ?_, fun hmem => ?_⟩
  · simp [parseFunction, String.ext_iff]
  · exact Text.underscore_notMem_of_isReserved (List.contains_iff_mem.2 hmem) hunderscore

/-- What a name of a grammar is called in generated code can be declared, and underscores are left
in variants only at the end of `Self_`. -/
structure HasUsableSymbols (name : String) : Prop where
  element : IsDeclarable (elementVariant name)
  token : IsDeclarable (tokenVariant name)
  function : IsDeclarable (parseFunction name)
  elementUnderscore : '_' ∈ (elementVariant name).toList ↔ elementVariant name = "Self_"
  tokenUnderscore : '_' ∈ (tokenVariant name).toList ↔ tokenVariant name = "Self_"

theorem hasUsableSymbols_of_isWord {name : String} (h : IsWord name.toList) :
    HasUsableSymbols name := by
  have hlower : Text.AllIdent (Text.lowerText name).toList := by
    rw [Text.lowerText, String.toList_ofList]
    exact Text.allIdent_lowerChars h.all []
  have helement : IsRaised (Text.pascalCase name) := isRaised_pascalCase h.all
  have htoken := isRaised_pascalCase hlower
  exact ⟨helement.isDeclarable_variantName, htoken.isDeclarable_variantName,
    isDeclarable_parseFunction h.all, helement.underscore_mem_iff, htoken.underscore_mem_iff⟩

/-- A name that has been scanned can be used in generated code, whatever becomes of the rest of the
text; so can the names of rules and tokens, and those referred to, in a grammar that was read. -/
theorem symbols_are_usable :
    (∀ (text : String) (tokens : List Token), Scan.scan text = .ok tokens →
      ∀ t ∈ tokens, t.kind = .ident → HasUsableSymbols t.text) ∧
    ∀ (env : Environment) (name text : String) (g : Grammar),
      env.factory? Environment.grammarLanguage = some .standard →
      env.parseGrammar name text = .ok g → ∀ rule ∈ g.rules, HasUsableSymbols rule.name ∧
        ∀ part ∈ rule.expr.parts, ∀ used, part = .reference used ∨ part = .token used →
          HasUsableSymbols used := by
  refine ⟨fun text tokens hscan t ht hkind => ?_, ?_⟩
  · exact hasUsableSymbols_of_isWord ((Scan.scanFrom_wellSpelled hscan t ht).isWord hkind)
  · intro env name text g hfactory hparse rule hrule
    obtain ⟨hword, hnormal⟩ := Environment.isNormal_of_parseGrammar hfactory hparse rule hrule
    refine ⟨hasUsableSymbols_of_isWord hword, fun part hpart used hused => ?_⟩
    have hpart := Expr.isNormal_of_mem_parts rule.expr hnormal hpart
    rcases hused with rfl | rfl
    · exact hasUsableSymbols_of_isWord hpart.1
    · exact hasUsableSymbols_of_isWord hpart.1

/-- The words `self`, `SELF`, `__` and `_1` become `Self_`, `V` and `V1`. -/
theorem odd_symbols_are_usable : ∃ g,
    Environment.standard.parseGrammar "test.bnf" "self ::= SELF __ _1" = .ok g ∧
      (∀ rule ∈ g.rules, HasUsableSymbols rule.name) ∧ g.rules.map (·.name) = ["self"] ∧
      elementVariant "self" = "Self_" ∧
      ["SELF", "__", "_1"].map tokenVariant = ["Self_", "V", "V1"] := by
  have hshown : (Environment.standard.parseGrammar "test.bnf" "self ::= SELF __ _1").toOption.map
      (fun g => g.rules.map (·.name)) = some ["self"] := by decide +kernel
  cases hparse : Environment.standard.parseGrammar "test.bnf" "self ::= SELF __ _1" with
  | error e => simp [hparse, Except.toOption] at hshown
  | ok g =>
      have hnames : g.rules.map (·.name) = ["self"] := by
        simpa [hparse, Except.toOption] using hshown
      obtain ⟨-, hparsed⟩ := symbols_are_usable
      exact ⟨g, rfl, fun rule hrule => (hparsed _ _ _ g rfl hparse rule hrule).1, hnames,
        by decide +kernel, by decide +kernel⟩

end Code

end GrammarForge
