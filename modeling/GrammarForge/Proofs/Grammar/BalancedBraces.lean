import GrammarForge.Proofs.Grammar.NormalForm
import Mathlib

/-!
# Braces of accepted texts match

The check of the braces goes over the tokens with a stack, the grammar goes by derivations. Whatever
derives, be it an item or a whole file, leaves the stack as it was. So the check can only replace
one error by another, and never keeps a grammar from being read.
-/

namespace GrammarForge

namespace BraceMatcher

/-- Tokens after which the same braces are open as before them. -/
def Balanced (ts : List Token) : Prop :=
  ∀ stack rest, standard.checkFrom stack (ts ++ rest) = standard.checkFrom stack rest

theorem checkFrom_of_no_brace {m : BraceMatcher} {t : Token} (h : t.kind.brace? = none)
    (stack : List (Char × Span)) (rest : List Token) :
    m.checkFrom stack (t :: rest) = m.checkFrom stack rest := by
  rw [checkFrom, h]

theorem checkFrom_opening {m : BraceMatcher} {t : Token} {opening closing : Char}
    (ht : t.kind.brace? = some opening) (hpair : m.closingFor? opening = some closing)
    (stack : List (Char × Span)) (rest : List Token) :
    m.checkFrom stack (t :: rest) = m.checkFrom ((opening, t.span) :: stack) rest := by
  simp [checkFrom, ht, hpair]

theorem isClosing_of_closingFor {m : BraceMatcher} {opening closing : Char}
    (h : m.closingFor? opening = some closing) : m.isClosing closing = true := by
  obtain ⟨pair, hfind, rfl⟩ := Option.map_eq_some_iff.1 h
  exact List.any_eq_true.2 ⟨pair, List.mem_of_find?_eq_some hfind, by simp⟩

/-- A brace that opens nothing closes the one that is open. -/
theorem checkFrom_closing {m : BraceMatcher} {t : Token} {opening closing : Char}
    (ht : t.kind.brace? = some closing) (hpair : m.closingFor? opening = some closing)
    (hopens : m.closingFor? closing = none) (span : Span) (stack : List (Char × Span))
    (rest : List Token) :
    m.checkFrom ((opening, span) :: stack) (t :: rest) = m.checkFrom stack rest := by
  simp [checkFrom, ht, hopens, isClosing_of_closingFor hpair, hpair]

theorem Balanced.nil : Balanced [] := fun _ _ => rfl

theorem Balanced.append {ts us : List Token} (h : Balanced ts) (h' : Balanced us) :
    Balanced (ts ++ us) := by
  intro stack rest
  rw [List.append_assoc, h, h']

theorem Balanced.single {t : Token} (h : t.kind.brace? = none) : Balanced [t] :=
  fun stack rest => checkFrom_of_no_brace h stack rest

theorem Balanced.cons {t : Token} {ts : List Token} (ht : t.kind.brace? = none)
    (h : Balanced ts) : Balanced (t :: ts) :=
  (Balanced.single ht).append h

/-- Balanced tokens between a brace and the one that closes it. -/
theorem Balanced.enclosed {ts : List Token} {o c : Token} {opening closing : Char}
    (ho : o.kind.brace? = some opening) (hc : c.kind.brace? = some closing)
    (hpair : standard.closingFor? opening = some closing)
    (hopens : standard.closingFor? closing = none) (h : Balanced ts) :
    Balanced (o :: (ts ++ [c])) := by
  intro stack rest
  rw [List.cons_append, List.append_assoc, checkFrom_opening ho hpair, h]
  exact checkFrom_closing hc hpair hopens o.span stack rest

theorem Balanced.check {ts : List Token} (h : Balanced ts) : standard.check ts = .ok () := by
  have hts := h [] []
  rwa [List.append_nil] at hts

end BraceMatcher

namespace Derived

open BraceMatcher

mutual

/-- The braces of a body match. -/
theorem Choice.balanced {ts : List Token} {e : Expr} : Choice ts e → Balanced ts
  | .single h => h.balanced
  | .several h _ => h.balanced

theorem Alternatives.balanced {ts : List Token} {es : List Expr} : Alternatives ts es → Balanced ts
  | .last h => h.balanced
  | .next hs hbar ha => hs.balanced.append (ha.balanced.cons (by rw [hbar]; rfl))

theorem Sequence.balanced {ts : List Token} {e : Expr} : Sequence ts e → Balanced ts
  | .single h => h.balanced
  | .several h _ => h.balanced

theorem Items.balanced {ts : List Token} {es : List Expr} : Items ts es → Balanced ts
  | .nil => .nil
  | .cons hp hi => hp.balanced.append hi.balanced

theorem Postfix.balanced {ts : List Token} {e : Expr} : Postfix ts e → Balanced ts
  | .primary h => h.balanced
  | .star h hop => h.balanced.append (.single (by rw [hop]; rfl))
  | .plus h hop => h.balanced.append (.single (by rw [hop]; rfl))
  | .question h hop => h.balanced.append (.single (by rw [hop]; rfl))

theorem Primary.balanced {ts : List Token} {e : Expr} : Primary ts e → Balanced ts
  | .token h _ => .single (by rw [h]; rfl)
  | .reference h _ => .single (by rw [h]; rfl)
  | .literal h => .single (by rw [h]; rfl)
  | .parens ho h hc => h.balanced.enclosed (by rw [ho]; rfl) (by rw [hc]; rfl) rfl rfl
  | .brackets ho h hc => h.balanced.enclosed (by rw [ho]; rfl) (by rw [hc]; rfl) rfl rfl

end

theorem Definition.balanced {core : List Token} {name : String} {e : Expr}
    (h : Definition core name e) : Balanced core := by
  cases h with
  | mk hname hdefine hbody =>
      apply Balanced.cons (by rw [hname]; rfl)
      exact hbody.balanced.cons (by rw [hdefine]; rfl)

theorem Separator.balanced {ts : List Token} (h : Separator ts) : Balanced ts := by
  cases h with
  | absent => exact .nil
  | present ht => exact .single (by rw [ht]; rfl)

theorem RuleText.balanced {ts : List Token} {r : Rule} (h : RuleText ts r) : Balanced ts := by
  cases h with
  | plain hdef hstop => exact hdef.balanced.append hstop.balanced
  | modified hword hdef hstop =>
      exact (hdef.balanced.append hstop.balanced).cons (by rw [hword.1]; rfl)

theorem Value.no_brace {t : Token} {text : String} (h : Value t text) : t.kind.brace? = none := by
  cases h with
  | literal ht => rw [ht]; rfl
  | name ht => rw [ht]; rfl

/-- There are no braces between those of an attribute block. -/
theorem Entries.balanced {ts : List Token} {pairs : List (String × String)}
    (h : Entries ts pairs) : Balanced ts := by
  induction h with
  | nil => exact .nil
  | separator ht _ ih => exact ih.cons (by rw [ht]; rfl)
  | setting hkey hequals hvalue _ ih =>
      apply Balanced.cons (by rw [hkey]; rfl)
      apply Balanced.cons (by rw [hequals]; rfl)
      exact ih.cons hvalue.no_brace

theorem File.balanced {fits : List Token → List Token → Prop} {ts : List Token}
    {pairs : List (String × String)} {rules : List Rule} (h : File fits ts pairs rules) :
    Balanced ts := by
  induction h with
  | nil => exact .nil
  | @block opening closing ts us _ _ _ ho hentries hc _ ih =>
      have hblock : Balanced (opening :: (ts ++ [closing])) :=
        hentries.balanced.enclosed (by rw [ho]; rfl) (by rw [hc]; rfl) rfl rfl
      have hfile := hblock.append ih
      rwa [List.cons_append, List.append_assoc, List.singleton_append] at hfile
  | separator ht _ ih => exact ih.cons (by rw [ht]; rfl)
  | rule hrule _ _ ih => exact hrule.balanced.append ih

end Derived

namespace Environment

/-- A text whose braces match, if they are checked, is parsed to what its tokens stand for. -/
theorem parseGrammar_of_scan {env : Environment} {name text : String} {tokens : List Token}
    (hfactory : env.factory? grammarLanguage = some .standard)
    (hscan : Scan.scan text = .ok tokens)
    (hbraces : ∀ m ∈ env.matcher? grammarLanguage, m.check tokens = .ok ()) :
    env.parseGrammar name text =
      GrammarFile.ofTokens .standard name text.utf8ByteSize tokens := by
  simp only [parseGrammar, hfactory, bind, Except.bind, hscan]
  cases hmatcher : env.matcher? grammarLanguage with
  | none => rfl
  | some m => simp only [hbraces m hmatcher]

/-- A parsed text has matching braces, whether or not they were checked. -/
theorem balanced_of_parseGrammar {env : Environment} {name text : String} {g : Grammar}
    (hfactory : env.factory? grammarLanguage = some .standard)
    (h : env.parseGrammar name text = .ok g) :
    ∃ tokens, Scan.scan text = .ok tokens ∧ BraceMatcher.Balanced tokens ∧
      GrammarFile.ofTokens .standard name text.utf8ByteSize tokens = .ok g := by
  obtain ⟨tokens, hscan, -, hg⟩ := parseGrammar_eq_ok hfactory h
  have hw := GrammarFile.wordsAreNames_of_scan hscan
  obtain ⟨pairs, hfile, -⟩ := (GrammarFile.ofTokens_eq_ok hw g).1 hg
  exact ⟨tokens, hscan, hfile.balanced, hg⟩

/-- What one environment for grammars parses another one parses as well, if it checks the braces of
the grammar language or none. -/
theorem parseGrammar_transfer {env env' : Environment} {name text : String} {g : Grammar}
    (hfactory : env.factory? grammarLanguage = some .standard)
    (hfactory' : env'.factory? grammarLanguage = some .standard)
    (hmatcher' : ∀ m ∈ env'.matcher? grammarLanguage, m = .standard)
    (h : env.parseGrammar name text = .ok g) : env'.parseGrammar name text = .ok g := by
  obtain ⟨tokens, hscan, hbalanced, hg⟩ := balanced_of_parseGrammar hfactory h
  rw [parseGrammar_of_scan hfactory' hscan, hg]
  intro m hm
  rw [hmatcher' m hm]
  exact hbalanced.check

end Environment

theorem ParserDefinition.standard_parse_eq_grammar {env : Environment} {name text : String}
    {g : Grammar} :
    ParserDefinition.standard.parse env name text = .grammar g ↔
      env.parseGrammar name text = .ok g := by
  change ParsedUnit.ofResult (env.parseGrammar name text) = .grammar g ↔ _
  cases env.parseGrammar name text with
  | error e => simp [ParsedUnit.ofResult]
  | ok g' => simp [ParsedUnit.ofResult]

theorem ParserDefinition.standard_parse_eq_failed {env : Environment} {name text : String}
    {e : GrammarError} :
    ParserDefinition.standard.parse env name text = .failed e ↔
      env.parseGrammar name text = .error e := by
  change ParsedUnit.ofResult (env.parseGrammar name text) = .failed e ↔ _
  cases env.parseGrammar name text with
  | error e' => simp [ParsedUnit.ofResult]
  | ok g => simp [ParsedUnit.ofResult]

namespace Environment

open Derived

/-- The tokens of a parsed text are the file that the grammar is read from. -/
theorem file_of_parse {env : Environment} (hfactory : env.factory? grammarLanguage = some .standard)
    {name text : String} {g : Grammar}
    (h : ParserDefinition.standard.parse env name text = .grammar g) :
    ∃ tokens pairs, Scan.scan text = .ok tokens ∧ File LeavesModifier tokens pairs g.rules ∧
      g.attributes = Attributes.settled pairs := by
  obtain ⟨tokens, hscan, -, hg⟩ :=
    balanced_of_parseGrammar hfactory (ParserDefinition.standard_parse_eq_grammar.1 h)
  have hw := GrammarFile.wordsAreNames_of_scan hscan
  obtain ⟨pairs, hfile, -, hattributes⟩ := (GrammarFile.ofTokens_eq_ok hw g).1 hg
  exact ⟨tokens, pairs, hscan, hfile, hattributes⟩

/-- A text whose tokens are a file is parsed to it. -/
theorem parse_of_file {env : Environment} (hfactory : env.factory? grammarLanguage = some .standard)
    (hmatcher : env.matcher? grammarLanguage = some .standard) (name : String) {text : String}
    {tokens : List Token} {pairs : List (String × String)} {rules : List Rule}
    (hscan : Scan.scan text = .ok tokens) (hfile : File LeavesModifier tokens pairs rules) :
    ParserDefinition.standard.parse env name text =
      .grammar ⟨name, Attributes.settled pairs, rules⟩ := by
  have hw := GrammarFile.wordsAreNames_of_scan hscan
  rw [ParserDefinition.standard_parse_eq_grammar,
    parseGrammar_of_scan hfactory hscan (by simpa [hmatcher] using hfile.balanced.check)]
  exact (GrammarFile.ofTokens_eq_ok hw _).2 ⟨pairs, hfile, rfl, rfl⟩

/-- A text is a grammar for an environment that checks braces exactly if it is the same grammar for
one that does not. -/
theorem brace_check_keeps_grammars {checking plain : Environment}
    (hfactory : checking.factory? grammarLanguage = some .standard)
    (hmatcher : checking.matcher? grammarLanguage = some .standard)
    (hfactory' : plain.factory? grammarLanguage = some .standard)
    (hmatcher' : plain.matcher? grammarLanguage = none) (name text : String) (g : Grammar) :
    ParserDefinition.standard.parse checking name text = .grammar g ↔
      ParserDefinition.standard.parse plain name text = .grammar g := by
  rw [ParserDefinition.standard_parse_eq_grammar, ParserDefinition.standard_parse_eq_grammar]
  constructor
  · exact parseGrammar_transfer hfactory hfactory' (by simp [hmatcher'])
  · exact parseGrammar_transfer hfactory' hfactory (by simp [hmatcher])

/-- Nested groups and an attribute block with semicolons in it, without and with the check. -/
theorem brace_check_keeps_nested_groups : ∃ g,
    ParserDefinition.standard.parse standard "g" "{ ; k = v ; } a ::= (b [(C)*] | [])+" =
        .grammar g ∧
      g.rules.length = 1 := by
  obtain ⟨g, hg, hrules⟩ : ∃ g, ParserDefinition.standard.parse
      ((empty .light).registerFactory grammarLanguage .standard) "g"
        "{ ; k = v ; } a ::= (b [(C)*] | [])+" = .grammar g ∧ g.rules.length = 1 :=
    ⟨_, by cbv, by cbv⟩
  exact ⟨g, (brace_check_keeps_grammars rfl rfl rfl rfl "g" _ g).2 hg, hrules⟩

end Environment

end GrammarForge
