import GrammarForge.Proofs.Code.ParserReading
import GrammarForge.Proofs.Code.TypesReading
import GrammarForge.Proofs.Generation.KeptRules
import GrammarForge.Proofs.Generation.Plans
import GrammarForge.Proofs.Grammar.LineBreaks

/-!
# Generated code refers to what it declares

The rules of a grammar are gone through twice, once to find out what is declared and once to write
the code of the rules. The two agree: a parser refers to variants of the types unit and to functions
of its own, and brings the types into scope under the path of their file. This is read off the texts
of the units, which can be read as long as no line ends in one of their comments.
-/

namespace GrammarForge

namespace Expr

mutual

theorem isToken_of_mem {t : String} : (e : Expr) → e.IsNormal → t ∈ e.tokens →
    IsWord t.toList ∧ Derived.NamesToken t
  | .choice alternatives, h, ht => isToken_of_mem_tokensOf alternatives h.2 ht
  | .sequence items, h, ht => isToken_of_mem_tokensOf items h.2 ht
  | .optional item, h, ht | .zeroOrMore item, h, ht | .oneOrMore item, h, ht =>
    isToken_of_mem item h ht
  | .token name, h, ht => by
      obtain rfl := List.mem_singleton.1 ht
      exact h
  | .reference _, _, ht | .literal _, _, ht => by cases ht

theorem isToken_of_mem_tokensOf {t : String} : (es : List Expr) → AreNormal es →
    t ∈ tokensOf es → IsWord t.toList ∧ Derived.NamesToken t
  | [], _, ht => by cases ht
  | e :: rest, h, ht => by
      rcases List.mem_append.1 ht with hfirst | hrest
      · exact isToken_of_mem e h.1 hfirst
      · exact isToken_of_mem_tokensOf rest h.2 hrest

end

end Expr

namespace Text

theorem isWord_snakeCase {s : String} (h : IsWord s.toList) : IsWord (snakeCase s).toList := by
  have hident := h.all
  obtain ⟨c, rest, hs, hc, hrest⟩ := h
  have hall {d : Char} := forall_ascii (c := d)
    (fun c => isIdentStart c = true → isIdentStart c.toLower = true) (by decide)
  have hident : isIdentRest c = true := hident c (by simp [hs])
  have hstart := hall (isAscii_of_isIdentRest hident) hc
  refine ⟨c.toLower, snakeChars (some c) rest, ?_, hstart, allIdent_snakeChars hrest (some c)⟩
  rw [snakeCase, String.toList_ofList, hs, snakeChars_cons_of_isIdentRest hident]
  simp [startsWord]

end Text

namespace LogicalName

/-- The path of a unit in generated code. -/
def codePath (n : LogicalName) : List String :=
  "crate" :: (n.modules.map (·.text) ++ [Text.snakeCase n.simple.text])

theorem isWord_of_mem_codePath (n : LogicalName) : ∀ part ∈ n.codePath, IsWord part.toList := by
  intro part hpart
  rcases List.mem_cons.1 hpart with rfl | hpart
  · exact Code.isWord_of_isIdentifier (by decide)
  · rcases List.mem_append.1 hpart with hmodule | hsimple
    · obtain ⟨s, -, rfl⟩ := List.mem_map.1 hmodule
      exact s.isWord
    · rw [List.mem_singleton.1 hsimple]
      exact Text.isWord_snakeCase n.simple.isWord

/-- The path in generated code is made of the parts of the path of the file. -/
theorem codePath_eq (n : LogicalName) : ∃ stem, n.relativePath = stem ++ ".rs" ∧
    n.codePath = "crate" :: Text.splitAtChar '/' stem := by
  have hjoin (parts : List String) (last : String) :
      "/".intercalate (parts ++ [last ++ ".rs"]) = "/".intercalate (parts ++ [last]) ++ ".rs" := by
    cases parts with
    | nil => simp
    | cons first rest =>
        have hfirst := Text.toList_intercalate_cons '/' first (rest ++ [last ++ ".rs"])
        have hsecond := Text.toList_intercalate_cons '/' first (rest ++ [last])
        refine String.toList_inj.1 (hfirst.trans ?_)
        rw [String.toList_append, List.cons_append]
        refine Eq.trans ?_ (congrArg (· ++ ".rs".toList) hsecond.symm)
        simp
  refine ⟨"/".intercalate (n.modules.map (·.text) ++ [Text.snakeCase n.simple.text]),
    hjoin _ _, ?_⟩
  have hslash : ∀ part ∈ n.modules.map (·.text) ++ [Text.snakeCase n.simple.text],
      '/' ∉ part.toList := by
    intro part hpart hmem
    exact absurd ((n.isWord_of_mem_codePath part (List.mem_cons_of_mem _ hpart)).all _ hmem)
      (by decide)
  exact congrArg _ (Text.splitAtChar_intercalate (by simp) hslash).symm

end LogicalName

namespace Analysis

theorem exists_of_mem_tokens {g : Grammar} {t : String} (h : t ∈ (ofGrammar g).tokens) :
    ∃ rule ∈ (ofGrammar g).rules, t ∈ rule.expr.tokens := by
  have hmem : t ∈ (ofGrammar g).rules.flatMap (·.expr.tokens) := mem_distinct.1 h
  exact List.mem_flatMap.1 hmem

theorem exists_of_isDefined {a : Analysis} {name : String} (h : a.isDefined name = true) :
    ∃ rule ∈ a.rules, rule.name = name := by
  simpa [isDefined, defines] using h

end Analysis

/-! ## Units of a grammar -/

namespace Code

variable {header : Header} {parser types : LogicalName} {g : Grammar}

/-- What a parser refers to: types of tokens, functions of rules, and types of public rules. -/
theorem ParserUnit.refers_members {path : String × String}
    (h : path ∈ (ofAnalysis header parser types (.ofGrammar g)).members.flatMap (·.paths)) :
    (∃ t ∈ (Analysis.ofGrammar g).tokens, path = ("TokenType", tokenVariant t)) ∨
    (∃ rule ∈ (Analysis.ofGrammar g).rules, path = ("Self", parseFunction rule.name)) ∨
    ∃ rule ∈ (Analysis.ofGrammar g).rules, rule.isPrivate = false ∧
      path = ("ElementType", elementVariant rule.name) := by
  obtain ⟨f, hf, hpath⟩ := List.mem_flatMap.1 h
  rcases List.mem_append.1 hf with hroot | hother
  · obtain ⟨root, hmem, rfl⟩ := List.mem_map.1 hroot
    have hroot := List.mem_of_mem_head? (Option.mem_toList.1 hmem)
    obtain ⟨rule, hrule, rfl⟩ := List.mem_map.1 hroot
    exact .inr (.inl ⟨rule, hrule, List.mem_singleton.1 hpath⟩)
  · obtain ⟨function, hfunction, rfl⟩ := List.mem_map.1 hother
    obtain ⟨rule, hrule, rfl⟩ := List.mem_map.1 hfunction
    rcases List.mem_append.1 hpath with hbody | helement
    · rcases Condition.refers_ofExpr _ rule.expr path hbody with ⟨t, ht, rfl⟩ |
        ⟨name, -, hdefined, rfl⟩
      · exact .inl ⟨t, Analysis.mem_tokens hrule t ht, rfl⟩
      · obtain ⟨target, htarget, rfl⟩ := Analysis.exists_of_isDefined hdefined
        exact .inr (.inl ⟨target, htarget, rfl⟩)
    · obtain ⟨element, hmem, rfl⟩ := List.mem_map.1 helement
      refine .inr (.inr ⟨rule, hrule, ?_⟩)
      cases hprivate : rule.isPrivate with
      | true => simp [RuleFunction.toFunction, RuleFunction.ofRule, hprivate] at hmem
      | false =>
          simp only [RuleFunction.toFunction, RuleFunction.ofRule, hprivate] at hmem
          simpa using hmem

theorem ParserUnit.mem_names {rule : Rule} (h : rule ∈ (Analysis.ofGrammar g).rules) :
    parseFunction rule.name ∈
      (ofAnalysis header parser types (.ofGrammar g)).members.map (·.name) := by
  refine List.mem_map.2 ⟨(RuleFunction.ofRule (Analysis.ofGrammar g).isDefined rule).toFunction,
    ?_, rfl⟩
  exact List.mem_append_right _ (List.mem_map_of_mem (List.mem_map_of_mem h))

/-- The function that a parser calls is one of its own. -/
theorem ParserUnit.function_mem {function : String} (h : ("Self", function) ∈
      (ofAnalysis header parser types (.ofGrammar g)).members.flatMap (·.paths)) :
    function ∈ (ofAnalysis header parser types (.ofGrammar g)).members.map (·.name) := by
  rcases refers_members h with ⟨_, _, heq⟩ | ⟨rule, hrule, heq⟩ | ⟨_, _, _, heq⟩
  · simp at heq
  · rw [show function = _ from congrArg Prod.snd heq]
    exact mem_names hrule
  · simp at heq

/-- The type of a node that a parser closes is one of the types unit. -/
theorem ParserUnit.element_mem {element : String} (h : ("ElementType", element) ∈
      (ofAnalysis header parser types (.ofGrammar g)).members.flatMap (·.paths)) :
    element ∈ (TypesUnit.ofAnalysis header parser (.ofGrammar g)).elements := by
  rcases refers_members h with ⟨_, _, heq⟩ | ⟨_, _, heq⟩ | ⟨rule, hrule, hpublic, heq⟩
  · simp at heq
  · simp at heq
  · have hvariant : elementVariant rule.name = element := (congrArg Prod.snd heq).symm
    exact List.mem_map.2 ⟨rule, List.mem_filter.2 ⟨hrule, by simp [hpublic]⟩, hvariant⟩

/-- The type of a token that a parser consumes is one of the types unit. -/
theorem ParserUnit.token_mem {variant : String} (h : ("TokenType", variant) ∈
      (ofAnalysis header parser types (.ofGrammar g)).members.flatMap (·.paths)) :
    ∃ t ∈ (TypesUnit.ofAnalysis header parser (.ofGrammar g)).tokens, t.variant = variant := by
  rcases refers_members h with ⟨t, ht, heq⟩ | ⟨_, _, heq⟩ | ⟨_, _, _, heq⟩
  · exact ⟨⟨tokenVariant t, t⟩, List.mem_map_of_mem ht, (congrArg Prod.snd heq).symm⟩
  · simp at heq
  · simp at heq

end Code

namespace Generation.Request

/-- No line ends in what comments show of a request: the names of the file and of the module, and
the literals of the rules that are kept. -/
structure KeepsLines (r : Request) : Prop where
  file : '\n' ∉ (fileNameOf r.grammar).toList
  moduleName : '\n' ∉ r.moduleName.toList
  literals : ∀ rule ∈ (Analysis.ofGrammar r.grammar).rules, ∀ literal ∈ rule.expr.literals,
    '\n' ∉ literal.toList

variable {r : Request} {env : Environment} {name text : String}

theorem isNormal_of_mem_rules
    (hfactory : env.factory? Environment.grammarLanguage = some .standard)
    (hparse : env.parseGrammar name text = .ok r.grammar) :
    ∀ rule ∈ (Analysis.ofGrammar r.grammar).rules, IsWord rule.name.toList ∧ rule.expr.IsNormal :=
  fun rule hrule =>
    Environment.isNormal_of_parseGrammar hfactory hparse rule (Analysis.mem_of_mem_rules hrule)

theorem isToken_of_mem_tokens
    (hfactory : env.factory? Environment.grammarLanguage = some .standard)
    (hparse : env.parseGrammar name text = .ok r.grammar) :
    ∀ t ∈ (Analysis.ofGrammar r.grammar).tokens, IsWord t.toList ∧ Derived.NamesToken t := by
  intro t ht
  obtain ⟨rule, hrule, hmem⟩ := Analysis.exists_of_mem_tokens ht
  exact Expr.isToken_of_mem rule.expr (isNormal_of_mem_rules hfactory hparse rule hrule).2 hmem

theorem types_isReadable (hfactory : env.factory? Environment.grammarLanguage = some .standard)
    (hparse : env.parseGrammar name text = .ok r.grammar) (h : r.KeepsLines)
    (parser : LogicalName) :
    (Code.TypesUnit.ofAnalysis ⟨fileNameOf r.grammar, r.moduleName⟩ parser
      (.ofGrammar r.grammar)).IsReadable := by
  have hnormal := isNormal_of_mem_rules hfactory hparse
  have htoken := isToken_of_mem_tokens hfactory hparse
  refine ⟨h.file, h.moduleName, parser.simple.isWord, ?_, ?_, ?_⟩
  · intro variant hvariant
    obtain ⟨rule, hrule, rfl⟩ := List.mem_map.1 hvariant
    exact Code.isWord_elementVariant (hnormal rule (List.mem_of_mem_filter hrule)).1.all
  · simp only [Code.TypesUnit.ofAnalysis, List.forall_mem_map]
    exact fun t ht => Code.isWord_tokenVariant (htoken t ht).1.all
  · simp only [Code.TypesUnit.ofAnalysis, List.forall_mem_map]
    exact fun t ht => (htoken t ht).1

theorem parser_isFramed (hfile : '\n' ∉ (fileNameOf r.grammar).toList)
    (hmodule : '\n' ∉ r.moduleName.toList) (parser types : LogicalName) :
    (Code.ParserUnit.ofAnalysis ⟨fileNameOf r.grammar, r.moduleName⟩ parser types
      (.ofGrammar r.grammar)).IsFramed types.codePath :=
  ⟨hfile, hmodule, rfl, List.cons_ne_nil _ _, types.isWord_of_mem_codePath, parser.simple.isWord⟩

theorem parser_isReadable (hfactory : env.factory? Environment.grammarLanguage = some .standard)
    (hparse : env.parseGrammar name text = .ok r.grammar) (h : r.KeepsLines)
    (parser types : LogicalName) :
    (Code.ParserUnit.ofAnalysis ⟨fileNameOf r.grammar, r.moduleName⟩ parser types
      (.ofGrammar r.grammar)).IsReadable types.codePath := by
  have hnormal := isNormal_of_mem_rules hfactory hparse
  have hname (rule : Rule) (hrule : rule ∈ (Analysis.ofGrammar r.grammar).rules) :
      '\n' ∉ rule.name.toList := fun hmem =>
    absurd ((hnormal rule hrule).1.all _ hmem) (by decide)
  have hdisplay (rule : Rule) (hrule : rule ∈ (Analysis.ofGrammar r.grammar).rules) :
      '\n' ∉ rule.expr.display.toList := by
    rw [Expr.display, String.toList_ofList,
      Expr.mem_chars ⟨rfl, by decide⟩ _ (hnormal rule hrule).2]
    rintro ⟨literal, hliteral, hmem⟩
    exact h.literals rule hrule literal hliteral hmem
  refine ⟨parser_isFramed h.file h.moduleName parser types, ?_, ?_, ?_⟩
  · simp only [Code.ParserUnit.ofAnalysis, List.forall_mem_map]
    exact fun rule hrule => Code.RuleFunction.isReadable_ofRule _ (hnormal rule hrule).1
      (hnormal rule hrule).2
  · simp only [Code.ParserUnit.ofAnalysis, List.forall_mem_map]
    exact hname
  · simp only [Code.ParserUnit.ofAnalysis, List.forall_mem_map]
    intro rule hrule
    have hdoc : '\n' ∉ ("`" ++ rule.name ++ " ::= " ++ rule.expr.display ++ "`").toList := by
      simpa using ⟨hname rule hrule, hdisplay rule hrule⟩
    exact hdoc

theorem rules_of_plan {types parser : Artifact} (h : r.plan.artifacts = .ok [types, parser]) :
    r.grammar.rules ≠ [] := by
  intro hnil
  rw [plan_of_no_rules hnil] at h
  cases h

/-- Where there are two artifacts, they are the types unit and the parser. -/
theorem units_of_plan {types parser : Artifact} (h : r.plan.artifacts = .ok [types, parser]) :
    ∃ p t : LogicalName, r.units p t = [types, parser] := by
  have hrules := rules_of_plan h
  rw [plan_artifacts_eq hrules] at h
  split at h
  · cases h
  · split at h
    · cases h
    · exact ⟨_, _, Except.ok.inj h⟩

/-- What a parser refers to is declared, in the types unit or in the parser itself, and the types
unit is looked for where it is. -/
theorem references_are_declared
    (hfactory : env.factory? Environment.grammarLanguage = some .standard)
    (hparse : env.parseGrammar name text = .ok r.grammar) (h : r.KeepsLines)
    {types parser : Artifact} (hplan : r.plan.artifacts = .ok [types, parser]) :
    ∃ ls, Code.lexCode parser.text = some ls ∧
      (∀ variant, ("TokenType", variant) ∈ Code.pathsOf (Code.implementation ls) →
        Code.variantLine variant ∈ Code.enumLines "TokenType" types.text ∧
          ∃ token, Code.TokenDeclaration.armLine ⟨variant, token⟩ ∈ Code.armLines types.text) ∧
      (∀ variant, ("ElementType", variant) ∈ Code.pathsOf (Code.implementation ls) →
        Code.variantLine variant ∈ Code.enumLines "ElementType" types.text) ∧
      (∀ function, ("Self", function) ∈ Code.pathsOf (Code.implementation ls) →
        function ∈ Code.declaredFunctions (Code.implementation ls)) ∧
      ∃ stem, types.name.relativePath = stem ++ ".rs" ∧
        Code.readUse? ls =
          some ("crate" :: Text.splitAtChar '/' stem, ["ElementType", "TokenType"]) := by
  obtain ⟨p, t, hunits⟩ := units_of_plan hplan
  obtain ⟨rfl, rfl⟩ : _ = types ∧ _ = parser := by simpa [units] using hunits
  have htypes := types_isReadable hfactory hparse h p
  have hparser := parser_isReadable hfactory hparse h p t
  have hnames := Code.ParserUnit.names_implementation (Code.ParserUnit.ofAnalysis
    ⟨fileNameOf r.grammar, r.moduleName⟩ p t (.ofGrammar r.grammar)) t.codePath
  obtain ⟨stem, hstem, hpath⟩ := t.codePath_eq
  have hlex := Code.lexCode_of_reads (Code.ParserUnit.reads_text hparser)
  refine ⟨_, hlex, ?_, ?_, ?_, stem, hstem, ?_⟩
  · intro variant hvariant
    rw [hnames.paths] at hvariant
    obtain ⟨token, htoken, rfl⟩ := Code.ParserUnit.token_mem hvariant
    exact ⟨htypes.token_mem htoken, token.token, htypes.arm_mem htoken⟩
  · intro variant hvariant
    rw [hnames.paths] at hvariant
    exact htypes.element_mem (Code.ParserUnit.element_mem hvariant)
  · intro function hfunction
    rw [hnames.paths] at hfunction
    rw [hnames.functions]
    exact Code.ParserUnit.function_mem hfunction
  · rw [← hpath]
    exact Code.ParserUnit.readUse?_frame _ _ _

/-- A grammar that does not name its types has units if its parser has a name. -/
theorem exists_units {p : LogicalName} (hrules : r.grammar.rules ≠ [])
    (hparser : LogicalName.parse r.parserSource.2 = .ok p) (htypes : r.typesSource? = none) :
    ∃ t : LogicalName, r.plan.artifacts = .ok (r.units p t) := by
  rw [plan_artifacts_eq hrules, parserName_eq, hparser]
  simp only [Except.mapError, typesName_of_none htypes]
  exact ⟨_, rfl⟩

/-- A grammar without attributes gets default names. -/
theorem exists_units_of_defaults (hrules : r.grammar.rules ≠ [])
    (hattributes : r.grammar.attributes = []) (hpackage : r.package = "") :
    ∃ p t : LogicalName, r.plan.artifacts = .ok (r.units p t) := by
  have hparser : r.parserSource = (.package "generated", "generated::GeneratedParser") := by
    rw [parserSource, hattributes, hpackage]
    rfl
  have htypes : r.typesSource? = none := by
    rw [typesSource?, hattributes]
    rfl
  have hname : LogicalName.parse "generated::GeneratedParser" =
      .ok ⟨[⟨"generated", by decide +kernel, by decide +kernel⟩],
        ⟨"GeneratedParser", by decide +kernel, by decide +kernel⟩⟩ := by decide +kernel
  exact ⟨_, exists_units hrules (by rw [hparser]; exact hname) htypes⟩

/-- The rule `a ::= B` is called and refers to its token, both of which are declared. -/
theorem references_of_one_token : ∃ g,
    Environment.standard.parseGrammar "a.bnf" "a ::= B" = .ok g ∧
      (⟨g, "", "", ""⟩ : Request).KeepsLines ∧
      ∃ types parser ls, (⟨g, "", "", ""⟩ : Request).plan.artifacts = .ok [types, parser] ∧
        Code.lexCode parser.text = some ls ∧
        ("TokenType", "B") ∈ Code.pathsOf (Code.implementation ls) ∧
        Code.variantLine "B" ∈ Code.enumLines "TokenType" types.text ∧
        ("Self", "parse_a") ∈ Code.pathsOf (Code.implementation ls) ∧
        "parse_a" ∈ Code.declaredFunctions (Code.implementation ls) := by
  obtain ⟨g, hparse, hname, hattributes, rule, hrules, hkept, hrule, hpublic, hexpr⟩ : ∃ g,
      Environment.standard.parseGrammar "a.bnf" "a ::= B" = .ok g ∧ g.name = "a.bnf" ∧
      g.attributes = [] ∧ ∃ rule, g.rules = [rule] ∧ (Analysis.ofGrammar g).rules = [rule] ∧
        rule.name = "a" ∧ rule.isPrivate = false ∧ rule.expr = .token "B" :=
    ⟨_, by cbv, by cbv, by cbv, _, by cbv, by cbv, by cbv, by cbv, by cbv⟩
  have hkeeps : (⟨g, "", "", ""⟩ : Request).KeepsLines := by
    refine ⟨?_, List.not_mem_nil, ?_⟩
    · rw [fileNameOf, hname]
      decide +kernel
    · simp [hkept, hexpr, Expr.literals]
  obtain ⟨p, t, hplan⟩ := exists_units_of_defaults (r := ⟨g, "", "", ""⟩) (by simp [hrules])
    hattributes rfl
  obtain ⟨ls, hls, htokens, -, hfunctions, -⟩ :=
    references_are_declared (r := ⟨g, "", "", ""⟩) rfl hparse hkeeps hplan
  have hreads := Code.lexCode_of_reads (Code.ParserUnit.reads_text
    (parser_isReadable (r := ⟨g, "", "", ""⟩) rfl hparse hkeeps p t))
  have hpaths := (Code.ParserUnit.names_implementation (Code.ParserUnit.ofAnalysis
    ⟨fileNameOf g, ""⟩ p t (.ofGrammar g)) t.codePath).paths
  rw [Option.some.inj (hreads.symm.trans hls)] at hpaths
  have hmembers : (Code.ParserUnit.ofAnalysis ⟨fileNameOf g, ""⟩ p t (.ofGrammar g)).members.flatMap
      (·.paths) = [("Self", "parse_a"), ("TokenType", "B"), ("ElementType", "A")] := by
    have hfunction : Code.parseFunction "a" = "parse_a" := by decide +kernel
    have htoken : Code.tokenVariant "B" = "B" := by decide +kernel
    have helement : Code.elementVariant "a" = "A" := by decide +kernel
    simp [Code.ParserUnit.members, Code.ParserUnit.ofAnalysis, Code.rootFunction,
      Code.RuleFunction.toFunction, Code.RuleFunction.ofRule, Code.Function.paths,
      Code.Condition.ofExpr, Code.Condition.paths, hkept, hrule, hpublic, hexpr, hfunction, htoken,
      helement]
  have htoken : ("TokenType", "B") ∈ Code.pathsOf (Code.implementation ls) := by
    simp [hpaths, hmembers]
  have hfunction : ("Self", "parse_a") ∈ Code.pathsOf (Code.implementation ls) := by
    simp [hpaths, hmembers]
  exact ⟨g, hparse, hkeeps, _, _, ls, hplan, hls, htoken, (htokens _ htoken).1, hfunction,
    hfunctions _ hfunction⟩

/-- What can be told of a result that there is. -/
theorem exists_ok_of_map {ε α β : Type} {x : Except ε α} {f : α → β} {b : β}
    (h : x.toOption.map f = some b) : ∃ a, x = .ok a ∧ f a = b := by
  cases x with
  | error e => cases h
  | ok a => exact ⟨a, rfl, Option.some.inj h⟩

/-- A grammar that names its parser has units, under the names that its attributes give. -/
theorem exists_units_of_attributes (file text : String) (attributes : Attributes)
    (parser types : LogicalName)
    (h : (Environment.standard.parseGrammar file text).toOption.map
      (fun g => (g.attributes, g.rules.isEmpty)) = some (attributes, false))
    (hparser : attributes.get? parserAttribute = some parser.text)
    (htypes : attributes.get? typesAttribute = some types.text ∨
      attributes.get? typesAttribute = none ∧ types = ⟨parser.modules, defaultTypesSegment⟩) :
    ∃ g, Environment.standard.parseGrammar file text = .ok g ∧ g.attributes = attributes ∧
      (⟨g, "", "", ""⟩ : Request).plan.artifacts = .ok (units ⟨g, "", "", ""⟩ parser types) := by
  obtain ⟨g, hparse, heq⟩ := exists_ok_of_map h
  obtain ⟨hattributes, hrules⟩ := Prod.mk.inj heq
  subst hattributes
  have hparserName : parserName ⟨g, "", "", ""⟩ = .ok parser := by
    rw [parserName, hparser]
    exact congrArg (Except.mapError _) (LogicalName.parse_text parser)
  have htypesName : typesName ⟨g, "", "", ""⟩ parser = .ok types := by
    rcases htypes with htypes | ⟨hnone, rfl⟩
    · rw [typesName, htypes]
      exact congrArg (Except.mapError _) (LogicalName.parse_text types)
    · exact typesName_of_none (by simp [typesSource?, hnone]) parser
  refine ⟨g, hparse, rfl, ?_⟩
  rw [plan_artifacts_eq (by simpa using hrules), hparserName]
  simp only [htypesName]

/-- A grammar whose literal has a function between two line feeds. -/
def breakingGrammar : String :=
  "a ::= '\\n    pub fn f(b: &mut impl Builder) -> bool \x7b Self::parse_b(b) \x7d\\n//'"

/-- The documentation of its rule. -/
def breakingDoc : String :=
  "`a ::= '\n    pub fn f(b: &mut impl Builder) -> bool \x7b Self::parse_b(b) \x7d\n//'`"

/-- The function between the line feeds. -/
def strayFunction : Code.Function := ⟨"f", .call "parse_b", none⟩

/-- The function is read where it is shown. -/
theorem readAs_stray {u : Code.ParserUnit} {f : Code.RuleFunction} (hfunctions : u.functions = [f])
    (hreadable : f.toFunction.IsReadable) (hname : '\n' ∉ f.rule.name.toList)
    (hdoc : f.docText = breakingDoc) :
    Code.ReadAs (u.rootItems ++ u.functions.flatMap (·.items))
      ([Code.rootFunction f, strayFunction, f.toFunction].flatMap (·.lexemes)) := by
  have hshown : Code.Reads ("/// " ++ breakingDoc ++ "\n") strayFunction.lexemes := by
    decide +kernel
  have hitem (level : Nat) :
      Code.Reads ((Code.Item.doc f.docText).lay level).1 strayFunction.lexemes := by
    rw [hdoc, Code.Item.lay, Code.layLine, String.append_assoc]
    exact (Code.closes_indentation level).reads.append hshown
  have hitems : Code.ReadAs f.items (strayFunction.lexemes ++ (f.toFunction.lexemes ++ [])) :=
    .blank (.cons hitem (.cons (fun level =>
      (Code.RuleFunction.closes_code hreadable level).reads) .nil))
  have hroot := Code.readAs_root hreadable.name hname
  rw [Code.ParserUnit.rootItems, hfunctions]
  simpa using hroot.append hitems

/-- A line feed in a literal ends the documentation of a rule, and what comes after it in the
literal is code. Here it calls a function that is not there. -/
theorem call_in_literal_is_undeclared : ∃ g,
    Environment.standard.parseGrammar "test.bnf" breakingGrammar = .ok g ∧
      ∃ types parser ls, (⟨g, "", "", ""⟩ : Request).plan.artifacts = .ok [types, parser] ∧
        Code.lexCode parser.text = some ls ∧
        ("Self", "parse_b") ∈ Code.pathsOf (Code.implementation ls) ∧
        "parse_b" ∉ Code.declaredFunctions (Code.implementation ls) := by
  have hshown : (Environment.standard.parseGrammar "test.bnf" breakingGrammar).toOption.map
      (fun g => (g.name, g.attributes, g.rules.map fun r =>
        (r.name, (Code.RuleFunction.ofRule (fun _ => false) r).docText))) =
      some ("test.bnf", [], [("a", breakingDoc)]) := by decide +kernel
  obtain ⟨g, hparse, heq⟩ := exists_ok_of_map hshown
  obtain ⟨hname, hattributes, rule, hrules, hrule, hdoc⟩ : g.name = "test.bnf" ∧
      g.attributes = [] ∧ ∃ rule, g.rules = [rule] ∧ rule.name = "a" ∧
        (Code.RuleFunction.ofRule (fun _ => false) rule).docText = breakingDoc := by
    simpa using heq
  have hkept : (Analysis.ofGrammar g).rules = [rule] := by
    simp [Analysis.ofGrammar, hrules, splitDuplicates]
  obtain ⟨p, t, hplan⟩ := exists_units_of_defaults (r := ⟨g, "", "", ""⟩) (by simp [hrules])
    hattributes rfl
  obtain ⟨hword, hnormal⟩ := Environment.isNormal_of_parseGrammar rfl hparse rule (by simp [hrules])
  have hframed := parser_isFramed (r := ⟨g, "", "", ""⟩) (by rw [fileNameOf, hname]; decide +kernel)
    List.not_mem_nil p t
  have hstray := readAs_stray (u := .ofAnalysis ⟨fileNameOf g, ""⟩ p t (.ofGrammar g))
    (by simp [Code.ParserUnit.ofAnalysis, hkept])
    (Code.RuleFunction.isReadable_ofRule (Analysis.ofGrammar g).isDefined hword hnormal)
    (fun hmem => absurd (hword.all _ hmem) (by decide)) hdoc
  have hnames : Code.Names ([Code.rootFunction (.ofRule (Analysis.ofGrammar g).isDefined rule),
      strayFunction, (Code.RuleFunction.ofRule (Analysis.ofGrammar g).isDefined rule).toFunction
        ].flatMap (·.lexemes)) _ _ := .flatMap fun f _ => f.names_lexemes
  have hclose : Code.Names [.sign "\x7d"] [] [] := .single (by decide) (by decide)
  have himplementation := hnames.append hclose
  have hlex := Code.lexCode_of_reads (Code.ParserUnit.reads_frame hframed hstray)
  refine ⟨g, hparse, _, _, _, hplan, hlex, ?_, ?_⟩
  · rw [Code.implementation, Code.ParserUnit.splitAtImpl_frame, himplementation.paths]
    simp [strayFunction, Code.Function.paths, Code.Condition.paths]
  · rw [Code.implementation, Code.ParserUnit.splitAtImpl_frame, himplementation.functions]
    have ha : Code.parseFunction "a" = "parse_a" := by decide +kernel
    simp [strayFunction, Code.rootFunction, Code.RuleFunction.toFunction, Code.RuleFunction.ofRule,
      hrule, ha]

end Generation.Request

end GrammarForge
