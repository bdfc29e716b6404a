import GrammarForge.Proofs.Code.DistinctNames
import GrammarForge.Proofs.Generation.References

/-!
# What is declared once

Of the rules of a grammar one is kept for each name, and each token counts once, as they are
written. What is declared for them are variants and functions, whose names come from a change of
letter case and word breaks. A name is declared twice if and only if this change makes two names the
same, or if the parser is called as one of the types around it. Plain names stay distinct.
-/

namespace GrammarForge

namespace Analysis

/-- The names of the rules that are kept. -/
def names (a : Analysis) : List String := a.rules.map (·.name)

/-- The names of the public rules that are kept. -/
def publicNames (a : Analysis) : List String := (a.rules.filter (!·.isPrivate)).map (·.name)

theorem publicNames_sublist (a : Analysis) : a.publicNames.Sublist a.names :=
  List.filter_sublist.map _

theorem nodup_publicNames (g : Grammar) : (ofGrammar g).publicNames.Nodup :=
  (nodup_names g).sublist (publicNames_sublist _)

theorem nodup_tokens (g : Grammar) : (ofGrammar g).tokens.Nodup := nodup_distinct _

theorem rules_ne_nil {g : Grammar} (h : g.rules ≠ []) : (ofGrammar g).rules ≠ [] := by
  obtain ⟨root, rest, hrules⟩ := List.exists_cons_of_ne_nil h
  have hroot : g.rule? root.name = some root := by simp [Grammar.rule?, hrules]
  exact List.ne_nil_of_mem (mem_rules_of_rule? hroot).1

end Analysis

namespace Code

theorem variantLine_injective : Function.Injective variantLine := by
  intro p q h
  exact (String.append_right_inj _).1 ((String.append_left_inj _).1 h)

/-- Variants are declared once if no two names have the same one. -/
theorem nodup_elementVariants_iff {names : List String}
    (hident : ∀ name ∈ names, Text.AllIdent name.toList) (h : names.Nodup) :
    (names.map elementVariant).Nodup ↔ ∀ p ∈ names, ∀ q ∈ names,
      SameVariant (Text.pascalCase p) (Text.pascalCase q) → p = q := by
  rw [List.nodup_map_iff_inj_on h]
  refine forall₂_congr fun p hp => forall₂_congr fun q hq => ?_
  rw [elementVariant_eq_iff (hident p hp) (hident q hq)]

theorem nodup_tokenVariants_iff {tokens : List String}
    (hident : ∀ token ∈ tokens, Text.AllIdent token.toList) (h : tokens.Nodup) :
    (tokens.map tokenVariant).Nodup ↔ ∀ s ∈ tokens, ∀ t ∈ tokens,
      SameVariant (Text.pascalCase (Text.lowerText s)) (Text.pascalCase (Text.lowerText t)) →
        s = t := by
  have hlower : ∀ token ∈ tokens, Text.AllIdent (Text.lowerText token).toList := by
    intro token htoken
    rw [Text.lowerText, String.toList_ofList]
    exact Text.allIdent_lowerChars (hident token htoken) []
  rw [List.nodup_map_iff_inj_on h]
  refine forall₂_congr fun s hs => forall₂_congr fun t ht => ?_
  rw [← elementVariant_eq_iff (hlower s hs) (hlower t ht)]
  rfl

/-- The function that parses from the root rule is none of those of the rules. -/
theorem parseFunction_ne (rule : String) : parseFunction rule ≠ "parse" := by
  intro h
  have hlength := congrArg (·.toList.length) h
  simp [parseFunction] at hlength

theorem nodup_functions_iff {names : List String} (h : names.Nodup) :
    ("parse" :: names.map parseFunction).Nodup ↔ ∀ p ∈ names, ∀ q ∈ names,
      Text.snakeCase p = Text.snakeCase q → p = q := by
  have hroot : "parse" ∉ names.map parseFunction := by
    simpa using fun name _ => parseFunction_ne name
  rw [List.nodup_cons, and_iff_right hroot, List.nodup_map_iff_inj_on h]
  simp only [parseFunction_eq_iff]

theorem nodup_typeNames_iff (parser : String) :
    ["ElementType", "TokenType", "Builder", parser].Nodup ↔
      parser ∉ ["ElementType", "TokenType", "Builder"] := by
  have hperm : (["ElementType", "TokenType", "Builder"] ++ [parser]).Perm
      ([parser] ++ ["ElementType", "TokenType", "Builder"]) := List.perm_append_comm
  have hparser : ["ElementType", "TokenType", "Builder", parser].Nodup ↔
      (parser :: ["ElementType", "TokenType", "Builder"]).Nodup := hperm.nodup_iff
  rw [hparser, List.nodup_cons, and_iff_left (by decide)]

variable {header : Header} {parser types : LogicalName} {a : Analysis}

theorem TypesUnit.elements_eq :
    (ofAnalysis header parser a).elements = a.publicNames.map elementVariant := by
  simp [ofAnalysis, Analysis.publicNames, Function.comp_def]

theorem TypesUnit.variants_eq :
    (ofAnalysis header parser a).variants = a.tokens.map tokenVariant := by
  simp [ofAnalysis, variants, Function.comp_def]

/-- A parser has a function for each rule, and one that starts with the first of them. -/
theorem ParserUnit.names_eq (h : a.rules ≠ []) :
    (ofAnalysis header parser types a).members.map (·.name) =
      "parse" :: a.names.map parseFunction := by
  obtain ⟨root, rest, hrules⟩ := List.exists_cons_of_ne_nil h
  simp [members, ofAnalysis, rootFunction, RuleFunction.toFunction, RuleFunction.ofRule,
    Analysis.names, hrules, Function.comp_def]

end Code

namespace Generation

/-- The parser has these lexemes, and this is what it and the types unit declare. -/
structure Declares (a : Analysis) (types parser : Artifact) (ls : List Code.Lexeme) : Prop where
  lexemes : Code.lexCode parser.text = some ls
  elements : Code.enumLines "ElementType" types.text =
    (a.publicNames.map Code.elementVariant).map Code.variantLine
  tokens : Code.enumLines "TokenType" types.text =
    (a.tokens.map Code.tokenVariant).map Code.variantLine
  functions : Code.declaredFunctions (Code.implementation ls) =
    "parse" :: a.names.map Code.parseFunction
  typeNames : Code.typeNames ls =
    ["ElementType", "TokenType", "Builder", parser.name.simple.text]

namespace Request

variable {r : Request} {env : Environment} {name text : String}

theorem exists_declares
    (hfactory : env.factory? Environment.grammarLanguage = some .standard)
    (hparse : env.parseGrammar name text = .ok r.grammar) (h : r.KeepsLines)
    {types parser : Artifact} (hplan : r.plan.artifacts = .ok [types, parser]) :
    ∃ ls, Declares (.ofGrammar r.grammar) types parser ls := by
  obtain ⟨p, t, hunits⟩ := units_of_plan hplan
  obtain ⟨rfl, rfl⟩ : _ = types ∧ _ = parser := by simpa [units] using hunits
  have htypes := types_isReadable hfactory hparse h p
  have hparser := parser_isReadable hfactory hparse h p t
  refine ⟨_, Code.lexCode_of_reads (Code.ParserUnit.reads_text hparser), ?_, ?_, ?_, ?_⟩
  · rw [← Code.TypesUnit.elements_eq]
    exact Code.TypesUnit.enumLines_elements htypes
  · rw [← Code.TypesUnit.variants_eq]
    exact Code.TypesUnit.enumLines_tokens htypes
  · rw [(Code.ParserUnit.names_implementation _ _).functions]
    exact Code.ParserUnit.names_eq (Analysis.rules_ne_nil (rules_of_plan hplan))
  · exact Code.ParserUnit.typeNames_frame _ _ _

theorem allIdent_of_mem_names
    (hfactory : env.factory? Environment.grammarLanguage = some .standard)
    (hparse : env.parseGrammar name text = .ok r.grammar) :
    ∀ rule ∈ (Analysis.ofGrammar r.grammar).names, Text.AllIdent rule.toList := by
  simp only [Analysis.names, List.forall_mem_map]
  exact fun rule hrule => (isNormal_of_mem_rules hfactory hparse rule hrule).1.all

/-- What is declared is declared once, if and only if no two names of the grammar are made the same
and the parser is not called as one of the types around it. -/
theorem declared_once_iff
    (hfactory : env.factory? Environment.grammarLanguage = some .standard)
    (hparse : env.parseGrammar name text = .ok r.grammar) (h : r.KeepsLines)
    {types parser : Artifact} (hplan : r.plan.artifacts = .ok [types, parser]) :
    ∃ ls, Code.lexCode parser.text = some ls ∧
      ((Code.enumLines "ElementType" types.text).Nodup ↔
        ∀ p ∈ (Analysis.ofGrammar r.grammar).publicNames,
          ∀ q ∈ (Analysis.ofGrammar r.grammar).publicNames,
            Code.SameVariant (Text.pascalCase p) (Text.pascalCase q) → p = q) ∧
      ((Code.enumLines "TokenType" types.text).Nodup ↔
        ∀ s ∈ (Analysis.ofGrammar r.grammar).tokens, ∀ t ∈ (Analysis.ofGrammar r.grammar).tokens,
          Code.SameVariant (Text.pascalCase (Text.lowerText s))
            (Text.pascalCase (Text.lowerText t)) → s = t) ∧
      ((Code.declaredFunctions (Code.implementation ls)).Nodup ↔
        ∀ p ∈ (Analysis.ofGrammar r.grammar).names, ∀ q ∈ (Analysis.ofGrammar r.grammar).names,
          Text.snakeCase p = Text.snakeCase q → p = q) ∧
      ((Code.typeNames ls).Nodup ↔
        parser.name.simple.text ∉ ["ElementType", "TokenType", "Builder"]) := by
  obtain ⟨ls, hdeclares⟩ := exists_declares hfactory hparse h hplan
  have hnames := allIdent_of_mem_names hfactory hparse
  have htokens := isToken_of_mem_tokens hfactory hparse
  have hpublic := fun name hname =>
    hnames name ((Analysis.publicNames_sublist _).subset hname)
  refine ⟨ls, hdeclares.lexemes, ?_, ?_, ?_, ?_⟩
  · rw [hdeclares.elements, List.nodup_map_iff Code.variantLine_injective]
    exact Code.nodup_elementVariants_iff hpublic (Analysis.nodup_publicNames _)
  · rw [hdeclares.tokens, List.nodup_map_iff Code.variantLine_injective]
    exact Code.nodup_tokenVariants_iff (fun t ht => (htokens t ht).1.all) (Analysis.nodup_tokens _)
  · rw [hdeclares.functions]
    exact Code.nodup_functions_iff (Analysis.nodup_names _)
  · rw [hdeclares.typeNames]
    exact Code.nodup_typeNames_iff _

/-- Plain names are declared once. -/
theorem declared_once_of_plain
    (hfactory : env.factory? Environment.grammarLanguage = some .standard)
    (hparse : env.parseGrammar name text = .ok r.grammar) (h : r.KeepsLines)
    {types parser : Artifact} (hplan : r.plan.artifacts = .ok [types, parser])
    (hrules : ∀ rule ∈ (Analysis.ofGrammar r.grammar).names, Text.isPlain rule = true)
    (htokens : ∀ t ∈ (Analysis.ofGrammar r.grammar).tokens,
      Text.isPlain (Text.lowerText t) = true)
    (hparser : parser.name.simple.text ∉ ["ElementType", "TokenType", "Builder"]) :
    ∃ ls, Code.lexCode parser.text = some ls ∧
      (Code.enumLines "ElementType" types.text).Nodup ∧
      (Code.enumLines "TokenType" types.text).Nodup ∧
      (Code.declaredFunctions (Code.implementation ls)).Nodup ∧ (Code.typeNames ls).Nodup := by
  obtain ⟨ls, hdeclares⟩ := exists_declares hfactory hparse h hplan
  have htoken := isToken_of_mem_tokens hfactory hparse
  have hpublic := fun rule hrule => hrules rule ((Analysis.publicNames_sublist _).subset hrule)
  refine ⟨ls, hdeclares.lexemes, ?_, ?_, ?_, ?_⟩
  · rw [hdeclares.elements, List.nodup_map_iff Code.variantLine_injective]
    exact (Analysis.nodup_publicNames _).map_on fun p hp q hq =>
      Code.elementVariant_injective (hpublic p hp) (hpublic q hq)
  · rw [hdeclares.tokens, List.nodup_map_iff Code.variantLine_injective]
    refine (Analysis.nodup_tokens _).map_on fun s hs t ht heq => ?_
    have hlower := Code.elementVariant_injective (htokens s hs) (htokens t ht) heq
    exact Text.lowerText_injective (htoken s hs).1.all (htoken t ht).1.all (htoken s hs).2.2
      (htoken t ht).2.2 hlower
  · rw [hdeclares.functions, List.nodup_cons]
    refine ⟨by simpa using fun rule _ => Code.parseFunction_ne rule, ?_⟩
    exact (Analysis.nodup_names _).map_on fun p hp q hq =>
      Code.parseFunction_injective (hrules p hp) (hrules q hq)
  · rw [hdeclares.typeNames]
    exact (Code.nodup_typeNames_iff _).2 hparser

/-- What the declarations of a grammar depend on. -/
structure Summary where
  file : String
  attributes : Attributes
  names : List String
  publicNames : List String
  tokens : List String
  literals : List String
deriving DecidableEq

def summary (g : Grammar) : Summary :=
  let a := Analysis.ofGrammar g
  { file := fileNameOf g
    attributes := g.attributes
    names := a.names
    publicNames := a.publicNames
    tokens := a.tokens
    literals := a.rules.flatMap (·.expr.literals) }

/-- A grammar without literals that names its parser has its units under that name. -/
theorem exists_units_of_summary (file text : String) (p : LogicalName) (all tokens : List String)
    (h : (Environment.standard.parseGrammar file text).toOption.map summary =
      some ⟨file, [("parserClass", p.text)], all, all, tokens, []⟩)
    (hfile : '\n' ∉ file.toList) (hne : all ≠ []) :
    ∃ g, Environment.standard.parseGrammar file text = .ok g ∧
      (⟨g, "", "", ""⟩ : Request).KeepsLines ∧ (Analysis.ofGrammar g).names = all ∧
      (Analysis.ofGrammar g).publicNames = all ∧ (Analysis.ofGrammar g).tokens = tokens ∧
      ∃ types parser, (⟨g, "", "", ""⟩ : Request).plan.artifacts = .ok [types, parser] ∧
        parser.name = p := by
  obtain ⟨g, hparse, heq⟩ := exists_ok_of_map h
  simp only [summary, Summary.mk.injEq] at heq
  obtain ⟨hname, hattributes, hnames, hpublic, htokens, hliterals⟩ := heq
  have hkeeps : (⟨g, "", "", ""⟩ : Request).KeepsLines := by
    refine ⟨hname ▸ hfile, List.not_mem_nil, ?_⟩
    intro rule hrule literal hliteral
    have hmem : literal ∈ (Analysis.ofGrammar g).rules.flatMap (·.expr.literals) :=
      List.mem_flatMap.2 ⟨rule, hrule, hliteral⟩
    rw [hliterals] at hmem
    cases hmem
  have hrules : g.rules ≠ [] := by
    intro hnil
    rw [← hnames] at hne
    exact hne (by simp [Analysis.names, Analysis.ofGrammar, splitDuplicates, hnil])
  have hparser : LogicalName.parse (parserSource ⟨g, "", "", ""⟩).2 = .ok p := by
    rw [parserSource, hattributes]
    exact LogicalName.parse_text p
  have htypes : typesSource? ⟨g, "", "", ""⟩ = none := by
    rw [typesSource?, hattributes]
    rfl
  obtain ⟨t, hplan⟩ := exists_units (r := ⟨g, "", "", ""⟩) hrules hparser htypes
  exact ⟨g, hparse, hkeeps, hnames, hpublic, htokens, _, _, hplan, rfl⟩

/-- The names `foo` and `fooBar`, and the tokens `A_1` and `B_1`, stay distinct. -/
theorem declared_once_in_demo : ∃ g,
    Environment.standard.parseGrammar "test.bnf"
      "\x7b parserClass = \"demo::P\" \x7d foo ::= A_1 fooBar ::= B_1" = .ok g ∧
      (⟨g, "", "", ""⟩ : Request).KeepsLines ∧
      ∃ types parser ls, (⟨g, "", "", ""⟩ : Request).plan.artifacts = .ok [types, parser] ∧
        Code.lexCode parser.text = some ls ∧
        (Code.enumLines "ElementType" types.text).Nodup ∧
        (Code.enumLines "TokenType" types.text).Nodup ∧
        (Code.declaredFunctions (Code.implementation ls)).Nodup ∧ (Code.typeNames ls).Nodup := by
  let p : LogicalName := ⟨[⟨"demo", by decide +kernel, by decide +kernel⟩],
    ⟨"P", by decide +kernel, by decide +kernel⟩⟩
  obtain ⟨g, hparse, hkeeps, hnames, hpublic, htokens, types, parser, hplan, hname⟩ :=
    exists_units_of_summary "test.bnf"
      "\x7b parserClass = \"demo::P\" \x7d foo ::= A_1 fooBar ::= B_1" p
      ["foo", "fooBar"] ["A_1", "B_1"] (by decide +kernel) (by decide +kernel) (by decide)
  obtain ⟨ls, hls, helements, hvariants, hfunctions, htypeNames⟩ :=
    declared_once_iff (r := ⟨g, "", "", ""⟩) rfl hparse hkeeps hplan
  refine ⟨g, hparse, hkeeps, types, parser, ls, hplan, hls, helements.2 ?_, hvariants.2 ?_,
    hfunctions.2 ?_, htypeNames.2 ?_⟩
  · rw [hpublic]
    decide +kernel
  · rw [htokens]
    decide +kernel
  · rw [hnames]
    decide +kernel
  · rw [hname]
    decide +kernel

/-- The names `fooBar` and `foo_bar` are made the same, and so are the tokens `A_1` and `A1`. A
parser that is called `Builder` has the name of the trait. -/
theorem declared_twice : ∃ g,
    Environment.standard.parseGrammar "test.bnf"
      "\x7b parserClass = \"demo::Builder\" \x7d fooBar ::= A_1 foo_bar ::= A1" = .ok g ∧
      ∃ types parser ls, (⟨g, "", "", ""⟩ : Request).plan.artifacts = .ok [types, parser] ∧
        Code.lexCode parser.text = some ls ∧
        ¬ (Code.enumLines "ElementType" types.text).Nodup ∧
        ¬ (Code.enumLines "TokenType" types.text).Nodup ∧
        ¬ (Code.declaredFunctions (Code.implementation ls)).Nodup ∧
        ¬ (Code.typeNames ls).Nodup := by
  let p : LogicalName := ⟨[⟨"demo", by decide +kernel, by decide +kernel⟩],
    ⟨"Builder", by decide +kernel, by decide +kernel⟩⟩
  obtain ⟨g, hparse, hkeeps, hnames, hpublic, htokens, types, parser, hplan, hname⟩ :=
    exists_units_of_summary "test.bnf"
      "\x7b parserClass = \"demo::Builder\" \x7d fooBar ::= A_1 foo_bar ::= A1" p
      ["fooBar", "foo_bar"] ["A_1", "A1"] (by decide +kernel) (by decide +kernel) (by decide)
  obtain ⟨ls, hdeclares⟩ := exists_declares (r := ⟨g, "", "", ""⟩) rfl hparse hkeeps hplan
  refine ⟨g, hparse, types, parser, ls, hplan, hdeclares.lexemes, ?_, ?_, ?_, ?_⟩
  · rw [hdeclares.elements, hpublic]
    decide +kernel
  · rw [hdeclares.tokens, htokens]
    decide +kernel
  · rw [hdeclares.functions, hnames]
    decide +kernel
  · rw [hdeclares.typeNames, hname]
    decide +kernel

end Request

end Generation

end GrammarForge
