import GrammarForge.Processing.Processor
import GrammarForge.Proofs.FileSystem.Places
import GrammarForge.Proofs.Grammar.BalancedBraces
import GrammarForge.Store.Memory

/-!
# The self check

A processor tries its environment on one name and the empty text. That is as good as trying all
names and texts: the extension of the name is one that files can have if any file can have the
extension of the definition, and a text without tokens is a grammar for every factory and every
matcher.
-/

namespace GrammarForge

namespace Path

variable {path name extension : String}

theorem fileName?_of_noSlash (hslash : '/' ∉ name.toList) (hne : name ≠ "") (hdot : name ≠ ".")
    (hdots : name ≠ "..") : fileName? name = some name := by
  have hparts : parts name = [name] := by
    have hpart : ∀ part ∈ [name], '/' ∉ part.toList := by simpa using hslash
    simpa using parts_intercalate (List.cons_ne_nil name []) hpart
  rw [fileName?, hparts]
  simp [ancestorParts, hne, hdot, hdots]

/-- What an extension can be: it holds no dot, and no slash as it is part of a name. -/
structure IsExtension (extension : String) : Prop where
  noDot : '.' ∉ extension.toList
  noSlash : '/' ∉ extension.toList

theorem notMem_of_extensionOf (h : extensionOf name = some extension) :
    '.' ∉ extension.toList ∧ extension.toList ⊆ name.toList := by
  simp only [extensionOf] at h
  split_ifs at h
  cases h
  refine ⟨fun hmem => ?_, fun c hc => ?_⟩
  · rw [String.toList_ofList, List.mem_reverse] at hmem
    exact absurd (List.mem_takeWhile_imp hmem) (by simp)
  · rw [String.toList_ofList, List.mem_reverse] at hc
    exact List.mem_reverse.1 ((List.takeWhile_sublist _).subset hc)

theorem isExtension_extension (path : String) : IsExtension (Path.extension path) := by
  have hempty : IsExtension "" := ⟨by decide, by decide⟩
  rw [Path.extension]
  cases hname : fileName? path with
  | none => exact hempty
  | some name =>
      rw [Option.bind_some]
      cases hextension : extensionOf name with
      | none => exact hempty
      | some found =>
          obtain ⟨hdot, hsubset⟩ := notMem_of_extensionOf hextension
          have hslash : '/' ∉ name.toList := slash_notMem (mem_parts_of_fileName? hname)
          exact ⟨hdot, fun hmem => hslash (hsubset hmem)⟩

/-- The extension of a name is what stands after its last dot, if that is not the first
character. -/
theorem extensionOf_eq_some {front : List Char} (hfront : front ≠ [])
    (hname : name.toList = front ++ '.' :: extension.toList) (hdot : '.' ∉ extension.toList) :
    extensionOf name = some extension := by
  have hafter : name.toList.reverse.takeWhile (· ≠ '.') = extension.toList.reverse := by
    have hall : ∀ c ∈ extension.toList.reverse, decide (c ≠ '.') = true := by
      intro c hc
      have hne : c ≠ '.' := by
        rintro rfl
        exact hdot (List.mem_reverse.1 hc)
      simpa using hne
    rw [hname, List.reverse_append, List.reverse_cons, List.append_assoc,
      List.takeWhile_append_of_pos hall]
    simp
  have hlength : extension.toList.length + 1 < name.toList.length := by
    have hpositive := List.length_pos_of_ne_nil hfront
    rw [hname, List.length_append, List.length_cons]
    omega
  simp only [extensionOf, hafter, List.length_reverse, if_pos hlength, List.reverse_reverse,
    String.ofList_toList]

/-- A name with what can be an extension after its dot has this extension. -/
theorem extension_test (h : IsExtension extension) :
    Path.extension s!"test.{extension}" = extension := by
  have hchars : s!"test.{extension}".toList = ['t', 'e', 's', 't'] ++ '.' :: extension.toList := by
    change ("test." ++ extension).toList = _
    simp
  have hne : ∀ other : String, other.toList.head? ≠ some 't' → s!"test.{extension}" ≠ other := by
    rintro other hother rfl
    rw [hchars] at hother
    exact hother rfl
  have hslash : '/' ∉ s!"test.{extension}".toList := by
    rw [hchars]
    simpa using h.noSlash
  rw [Path.extension, fileName?_of_noSlash hslash (hne _ (by decide)) (hne _ (by decide))
    (hne _ (by decide)), Option.bind_some, extensionOf_eq_some (by simp) hchars h.noDot,
    Option.getD_some]

/-- One name is as good as any to tell whether there are files with an extension. -/
theorem extension_test_iff :
    Path.extension s!"test.{extension}" = extension ↔ ∃ path, Path.extension path = extension := by
  refine ⟨fun h => ⟨_, h⟩, ?_⟩
  rintro ⟨path, rfl⟩
  exact extension_test (isExtension_extension path)

end Path

namespace Environment

variable {env : Environment}

/-- A text without tokens is a grammar for every factory, and no matcher finds a fault with it. -/
theorem exists_parseGrammar_empty {factory : AstFactory}
    (h : env.factory? grammarLanguage = some factory) (name : String) :
    ∃ g, env.parseGrammar name "" = .ok g := by
  have hscan : Scan.scan "" = .ok [] := by decide +kernel
  have hfile : GrammarFile.ofTokens factory name "".utf8ByteSize [] =
      .ok (factory.makeGrammar name (Attributes.ofPairs []) []) := by
    rw [GrammarFile.ofTokens, GrammarFile.readParts]
    rfl
  refine ⟨factory.makeGrammar name (Attributes.ofPairs []) [], ?_⟩
  simp only [parseGrammar, h, hscan, bind, Except.bind]
  cases env.matcher? grammarLanguage with
  | none => exact hfile
  | some m => exact hfile

/-- Without a factory no text is a grammar. -/
theorem factory_of_parseGrammar {name text : String} {g : Grammar}
    (h : env.parseGrammar name text = .ok g) : (env.factory? grammarLanguage).isSome = true := by
  unfold parseGrammar at h
  cases hfactory : env.factory? grammarLanguage with
  | none =>
      rw [hfactory] at h
      cases h
  | some factory => rfl

end Environment

theorem ParsedUnit.isGrammar_iff {unit : ParsedUnit} :
    unit.isGrammar = true ↔ ∃ g, unit = .grammar g := by
  cases unit with
  | grammar g => simp [isGrammar]
  | other name kind => simp [isGrammar]
  | failed e => simp [isGrammar]

namespace ParserDefinition

/-- A definition that parses nothing. -/
def AlwaysFails (d : ParserDefinition) : Prop :=
  ∀ env name text, ∃ e, d.parse env name text = .failed e

/-- There is a text that is a grammar as a file of some name. -/
def CanParse (d : ParserDefinition) (env : Environment) : Prop :=
  ∃ name text g, env.parseText name text d = .grammar g

theorem alwaysFails_broken : broken.AlwaysFails := fun _ _ _ => ⟨_, rfl⟩

theorem AlwaysFails.parseText_ne_grammar {d : ParserDefinition} (h : d.AlwaysFails)
    (env : Environment) (name text : String) (g : Grammar) :
    env.parseText name text d ≠ .grammar g := by
  simp only [Environment.parseText]
  split
  · obtain ⟨e, he⟩ := h env name text
    simp [he]
  · simp

theorem delegating_parse_eq_grammar {language extension name text : String} {env : Environment}
    {g : Grammar} : (delegating language extension).parse env name text = .grammar g ↔
      env.parseGrammar name text = .ok g := standard_parse_eq_grammar

theorem parseText_delegating_eq_grammar {language extension name text : String}
    {env : Environment} {g : Grammar} :
    env.parseText name text (delegating language extension) = .grammar g ↔
      Path.extension name = extension ∧ env.parseGrammar name text = .ok g := by
  change (if Path.extension name = extension then
    (delegating language extension).parse env name text
      else .other name (Path.extension name)) = _ ↔ _
  split_ifs with hextension
  · simp [hextension, delegating_parse_eq_grammar]
  · simp [hextension]

/-- A definition can parse something if files can have its extension and there is a factory for
grammars, whatever its own language. -/
theorem canParse_delegating_iff {language extension : String} {env : Environment} :
    (delegating language extension).CanParse env ↔
      (∃ path, Path.extension path = extension) ∧
        (env.factory? Environment.grammarLanguage).isSome = true := by
  constructor
  · rintro ⟨name, text, g, hparse⟩
    obtain ⟨hextension, hgrammar⟩ := parseText_delegating_eq_grammar.1 hparse
    exact ⟨⟨name, hextension⟩, Environment.factory_of_parseGrammar hgrammar⟩
  · rintro ⟨⟨path, hextension⟩, hfactory⟩
    obtain ⟨factory, hfactory⟩ := Option.isSome_iff_exists.1 hfactory
    obtain ⟨g, hg⟩ := Environment.exists_parseGrammar_empty hfactory path
    exact ⟨path, "", g, parseText_delegating_eq_grammar.2 ⟨hextension, hg⟩⟩

/-- The self check tries one name and the empty text for all names and texts. -/
theorem test_isGrammar_iff_canParse {d : ParserDefinition} (env : Environment)
    (h : d.AlwaysFails ∨ ∃ language extension, d = delegating language extension) :
    (env.parseText s!"test.{d.extension}" "" d).isGrammar = true ↔ d.CanParse env := by
  rw [ParsedUnit.isGrammar_iff]
  constructor
  · rintro ⟨g, hg⟩
    exact ⟨_, _, g, hg⟩
  · intro hparse
    rcases h with hfails | ⟨language, extension, rfl⟩
    · obtain ⟨name, text, g, hg⟩ := hparse
      exact absurd hg (hfails.parseText_ne_grammar env name text g)
    · obtain ⟨hextension, hfactory⟩ := canParse_delegating_iff.1 hparse
      obtain ⟨factory, hfactory⟩ := Option.isSome_iff_exists.1 hfactory
      obtain ⟨g, hg⟩ := Environment.exists_parseGrammar_empty hfactory s!"test.{extension}"
      exact ⟨g, parseText_delegating_eq_grammar.2 ⟨Path.extension_test_iff.2 hextension, hg⟩⟩

end ParserDefinition

namespace Processor

variable {δ σ : Type} [DiagnosticSink δ]

theorem toRunState_init (options : Options) (environment : Environment)
    (definition : ParserDefinition) (s : RunState δ σ) :
    let p := init options environment definition s
    p.toRunState =
      if isUsable p.environment definition then s else s.report (.error notInitialized) := by
  intro p
  unfold p init
  rfl

/-- The self check finds out what it is to find out: a processor reports that it failed if its
environment is not one for batch runs, or if there is nothing that it could ever parse. Otherwise
it reports nothing. -/
theorem self_check_predicts_parsing (options : Options) (environment : Environment)
    (definition : ParserDefinition)
    (h : definition.AlwaysFails ∨
      ∃ language extension, definition = .delegating language extension) (s : RunState δ σ) :
    let p := init options environment definition s
    ((environment.kind ≠ .light ∨
        ¬ ∃ name text g, p.environment.parseText name text definition = .grammar g) →
      p.toRunState = s.report (.error "Grammar parser failed to initialize")) ∧
    ((environment.kind = .light ∧
        ∃ name text g, p.environment.parseText name text definition = .grammar g) →
      p.toRunState = s) := by
  intro p
  have hkind : p.environment.kind = environment.kind := rfl
  have htest := ParserDefinition.test_isGrammar_iff_canParse p.environment h
  have husable : isUsable p.environment definition = true ↔
      definition.CanParse p.environment ∧ environment.kind = .light := by
    rw [isUsable, Bool.and_eq_true, htest, decide_eq_true_eq, hkind]
  have hstate := toRunState_init options environment definition s
  constructor
  · intro hunfit
    have hnot : ¬ isUsable p.environment definition = true := by
      rw [husable]
      rintro ⟨hparse, hlight⟩
      rcases hunfit with hfull | hnothing
      · exact hfull hlight
      · exact hnothing hparse
    exact hstate.trans (if_neg hnot)
  · rintro ⟨hlight, hparse⟩
    exact hstate.trans (if_pos (husable.2 ⟨hparse, hlight⟩))

/-- For a language of its own a definition needs a factory for grammars that is there before. It can
parse nothing, whatever is there, if its extension has a dot. -/
theorem foreign_definitions_are_checked :
    let s : RunState (List Diagnostic) MemoryStore := ⟨⟨.new [] [], .empty⟩, []⟩
    let factories := (Environment.empty .light).registerFactory "BNF" (.prepending "p_")
    let failure := Diagnostic.error "Grammar parser failed to initialize"
    (init [] factories (.delegating "OTHER" "bnf") s).sink = [] ∧
      (init [] (.empty .light) (.delegating "OTHER" "bnf") s).sink = [failure] ∧
      (init [] factories (.delegating "OTHER" "tar.gz") s).sink = [failure] ∧
      (init [] factories .broken s).sink = [failure] := by
  intro s factories failure
  refine ⟨?_, ?_, ?_, ?_⟩
  · have hparse : (ParserDefinition.delegating "OTHER" "bnf").CanParse
        (init [] factories (.delegating "OTHER" "bnf") s).environment :=
      ParserDefinition.canParse_delegating_iff.2 ⟨⟨"a.bnf", by decide +kernel⟩, rfl⟩
    rw [(self_check_predicts_parsing [] factories (.delegating "OTHER" "bnf") (.inr ⟨_, _, rfl⟩)
      s).2 ⟨rfl, hparse⟩]
  · have hnothing : ¬ (ParserDefinition.delegating "OTHER" "bnf").CanParse
        (init [] (.empty .light) (.delegating "OTHER" "bnf") s).environment := by
      intro hparse
      cases (ParserDefinition.canParse_delegating_iff.1 hparse).2
    rw [(self_check_predicts_parsing [] (.empty .light) (.delegating "OTHER" "bnf")
      (.inr ⟨_, _, rfl⟩) s).1 (.inr hnothing)]
    rfl
  · have hnothing : ¬ (ParserDefinition.delegating "OTHER" "tar.gz").CanParse
        (init [] factories (.delegating "OTHER" "tar.gz") s).environment := by
      intro hparse
      obtain ⟨⟨path, hextension⟩, -⟩ := ParserDefinition.canParse_delegating_iff.1 hparse
      exact (hextension ▸ Path.isExtension_extension path).noDot (by decide)
    rw [(self_check_predicts_parsing [] factories (.delegating "OTHER" "tar.gz")
      (.inr ⟨_, _, rfl⟩) s).1 (.inr hnothing)]
    rfl
  · have hbroken := ParserDefinition.alwaysFails_broken
    have hnothing : ¬ ParserDefinition.broken.CanParse
        (init [] factories .broken s).environment := by
      rintro ⟨name, text, g, hg⟩
      exact hbroken.parseText_ne_grammar _ name text g hg
    rw [(self_check_predicts_parsing [] factories .broken (.inl hbroken) s).1 (.inr hnothing)]
    rfl

end Processor

end GrammarForge
