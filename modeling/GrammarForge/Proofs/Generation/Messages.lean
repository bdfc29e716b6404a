import GrammarForge.Proofs.FileSystem.Places
import GrammarForge.Proofs.Generation.KeptRules
import GrammarForge.Proofs.Generation.Plans
import GrammarForge.Proofs.LogicalName.NameErrors

/-!
# What messages about generation show

The warnings about a grammar show the name of its file and names of rules, which are words. Of what
is in the grammar only a text that is given for a name and is no name can be shown beyond that. So
all that is said about a grammar has one line each, unless a line ends within such a text.
-/

namespace GrammarForge

namespace Path

theorem oneLine_of_mem_parts {path part : String} (h : OneLine path) (hpart : part ∈ parts path) :
    OneLine part := by
  have hslash : '\n' ≠ '/' := by decide
  intro hmem
  apply h
  rw [← intercalate_parts path]
  exact (Text.mem_intercalate hslash).2 ⟨part, hpart, hmem⟩

theorem oneLine_fileName {path name : String} (h : OneLine path) (hname : fileName? path = some name) :
    OneLine name := oneLine_of_mem_parts h (mem_parts_of_fileName? hname)

end Path

theorem Generation.oneLine_fileNameOf {g : Grammar} (h : OneLine g.name) :
    OneLine (fileNameOf g) := by
  unfold fileNameOf
  cases hname : Path.fileName? g.name with
  | none => exact h
  | some name => exact Path.oneLine_fileName h hname

namespace Expr

mutual

theorem isWord_of_mem_references {name : String} : (e : Expr) → e.IsNormal → name ∈ e.references →
    IsWord name.toList
  | .choice alternatives, h, hname => isWord_of_mem_referencesOf alternatives h.2 hname
  | .sequence items, h, hname => isWord_of_mem_referencesOf items h.2 hname
  | .optional item, h, hname | .zeroOrMore item, h, hname | .oneOrMore item, h, hname =>
    isWord_of_mem_references item h hname
  | .reference other, h, hname => by
      obtain rfl := List.mem_singleton.1 hname
      exact h.1
  | .token _, _, hname | .literal _, _, hname => by cases hname

theorem isWord_of_mem_referencesOf {name : String} : (es : List Expr) → AreNormal es →
    name ∈ referencesOf es → IsWord name.toList
  | [], _, hname => by cases hname
  | e :: rest, h, hname => by
      rcases List.mem_append.1 hname with hfirst | hrest
      · exact isWord_of_mem_references e h.1 hfirst
      · exact isWord_of_mem_referencesOf rest h.2 hrest

end

end Expr

theorem splitDuplicates_duplicates (seen : List String) (rules : List Rule) :
    (splitDuplicates seen rules).2.Sublist rules := by
  induction rules generalizing seen with
  | nil => exact .slnil
  | cons r rest ih =>
      rw [splitDuplicates]
      split
      · exact (ih seen).cons_cons r
      · exact (ih (r.name :: seen)).cons r

namespace Generation

/-- The names that a warning shows. -/
def Warning.names : Warning → List String
  | .noRules => []
  | .duplicateRule rule => [rule]
  | .unresolvedReference rule reference => [rule, reference]
  | .unusedPrivateRule rule => [rule]
  | .noParserName name => [name.text]

theorem Warning.oneLine_message {file : String} (hfile : OneLine file) {w : Warning}
    (h : ∀ name ∈ w.names, OneLine name) : OneLine (w.message file) := by
  cases w <;> simp_all +decide [names, message]

/-- Rules as they are read. -/
def AreRead (rules : List Rule) : Prop :=
  ∀ rule ∈ rules, IsWord rule.name.toList ∧ rule.expr.IsNormal

theorem oneLine_ruleWarnings {g : Grammar} (h : AreRead g.rules) :
    ∀ w ∈ ruleWarnings (.ofGrammar g), ∀ name ∈ w.names, OneLine name := by
  have hkept : ∀ r ∈ (Analysis.ofGrammar g).rules, IsWord r.name.toList ∧ r.expr.IsNormal :=
    fun r hr => h r (Analysis.mem_of_mem_rules hr)
  intro w hw name hname
  simp only [ruleWarnings, List.mem_append, List.mem_map, Prod.exists] at hw
  rcases hw with (⟨r, hr, rfl⟩ | ⟨rule, reference, hmem, rfl⟩) | ⟨rule, hmem, rfl⟩
  · obtain rfl := List.mem_singleton.1 hname
    exact (h r ((splitDuplicates_duplicates [] g.rules).subset hr)).1.oneLine
  · simp only [Analysis.ofGrammar, mem_distinct, List.mem_flatMap, List.mem_map,
      List.mem_filter, Prod.mk.injEq] at hmem
    obtain ⟨r, hr, _, ⟨hreference, -⟩, rfl, rfl⟩ := hmem
    obtain ⟨hword, hnormal⟩ := hkept r hr
    rcases List.mem_pair.1 hname with rfl | rfl
    · exact hword.oneLine
    · exact (Expr.isWord_of_mem_references r.expr hnormal hreference).oneLine
  · simp only [Analysis.ofGrammar, List.mem_map, List.mem_filter] at hmem
    obtain ⟨r, ⟨hr, -⟩, rfl⟩ := hmem
    obtain rfl := List.mem_singleton.1 hname
    exact (hkept r hr).1.oneLine

/-- The warnings of a plan have one line each. -/
theorem Request.oneLine_warnings {r : Request} (hname : OneLine r.grammar.name)
    (h : AreRead r.grammar.rules) : ∀ text ∈ r.plan.warnings, OneLine text := by
  have hfile := oneLine_fileNameOf hname
  unfold plan
  dsimp only
  split
  · intro text htext
    rw [List.mem_singleton.1 htext]
    exact Warning.oneLine_message hfile (by simp [Warning.names])
  · intro text htext
    obtain ⟨w, hw, rfl⟩ := List.mem_map.1 htext
    refine Warning.oneLine_message hfile ?_
    rcases List.mem_append.1 hw with hrule | hparser
    · exact oneLine_ruleWarnings h w hrule
    · unfold nameWarnings at hparser
      split at hparser
      · next parser _ _ =>
          rw [List.mem_singleton.1 hparser]
          simp [Warning.names, LogicalName.oneLine_text]
      · cases hparser

/-- The message and the causes of an error have one line each. -/
def Error.InOneLine (e : Error) : Prop := ∀ part ∈ e.message :: e.causes, OneLine part

theorem Error.inOneLine_cannotOpen {cause : SystemError} (h : OneLine cause.message)
    (name : LogicalName) : (cannotOpen name cause).InOneLine := by
  have hname := name.oneLine_text
  unfold InOneLine message causes
  simp +decide [h, hname]

theorem Request.oneLine_trim_of_nameFrom {key value : String} {n : LogicalName}
    (h : nameFrom key value = .ok n) : OneLine (Text.trim value) := by
  unfold nameFrom at h
  cases hparse : LogicalName.parse value with
  | error e =>
      rw [hparse] at h
      cases h
  | ok n => exact LogicalName.oneLine_trim_of_parse hparse

theorem Request.inOneLine_of_nameFrom {key value : String} {e : Error} (hkey : OneLine key)
    (h : nameFrom key value = .error e) : e.InOneLine ↔ OneLine (Text.trim value) := by
  unfold nameFrom at h
  cases hparse : LogicalName.parse value with
  | error cause =>
      rw [hparse] at h
      cases h
      rw [← LogicalName.oneLine_message_of_parse hparse]
      unfold Error.InOneLine Error.message Error.causes NameSource.describe
      simp +decide [hkey]
  | ok n =>
      rw [hparse] at h
      cases h

end Generation

open Generation

namespace Grammar

/-- Whether a line ends within the text that an attribute gives for a name. -/
def breaksLineIn (key : String) (g : Grammar) : Bool :=
  (g.attributes.get? key).any fun value => (Text.trim value).toList.contains '\n'

/-- Whether a line ends within the first text that should be a name and is none. -/
def breaksLine (g : Grammar) : Bool :=
  !g.rules.isEmpty &&
    (g.breaksLineIn parserAttribute ||
      (g.attributes.get? parserAttribute).all (fun value => (LogicalName.parse value).isOk) &&
        g.breaksLineIn typesAttribute)

variable {g : Grammar} {key value : String}

theorem breaksLineIn_of_none (h : g.attributes.get? key = none) : g.breaksLineIn key = false := by
  simp [breaksLineIn, h]

theorem breaksLineIn_of_some (h : g.attributes.get? key = some value) :
    g.breaksLineIn key = false ↔ OneLine (Text.trim value) := by
  simp [breaksLineIn, h, OneLine]

end Grammar

namespace Generation.Request

variable {r : Request} {parser types : LogicalName} {e : Error}

theorem breaksLineIn_of_typesName (h : r.typesName parser = .ok types) :
    r.grammar.breaksLineIn typesAttribute = false := by
  unfold typesName at h
  split at h
  · next value hvalue => 
      exact (Grammar.breaksLineIn_of_some hvalue).2 (oneLine_trim_of_nameFrom h)
  · next hnone => exact Grammar.breaksLineIn_of_none hnone

theorem inOneLine_of_typesName (h : r.typesName parser = .error e) :
    e.InOneLine ↔ r.grammar.breaksLineIn typesAttribute = false := by
  cases hvalue : r.grammar.attributes.get? typesAttribute with
  | none =>
      rw [typesName_of_none (by rw [typesSource?, hvalue]; rfl)] at h
      cases h
  | some value =>
      simp only [typesName, hvalue] at h
      rw [Grammar.breaksLineIn_of_some hvalue, inOneLine_of_nameFrom (by decide) h]

theorem parserName_of_some {value : String}
    (h : r.grammar.attributes.get? parserAttribute = some value) :
    r.parserName = nameFrom parserAttribute value := by
  rw [parserName, h]

/-- By default there is a name for the parser. -/
theorem parserName_of_none (hpackage : r.package = "")
    (h : r.grammar.attributes.get? parserAttribute = none) :
    ∃ parser, r.parserName = .ok parser := by
  have hdefault : (LogicalName.parse "generated::GeneratedParser").isOk = true := by
    decide +kernel
  simp only [parserName, h, hpackage, if_true]
  change ∃ parser, (LogicalName.parse "generated::GeneratedParser").mapError _ = .ok parser
  cases hparse : LogicalName.parse "generated::GeneratedParser" with
  | error e =>
      rw [hparse] at hdefault
      cases hdefault
  | ok parser => exact ⟨parser, rfl⟩

/-- Where the parser has a name, that of the types unit is what counts. -/
theorem breaksLine_of_parserName (hrules : r.grammar.rules ≠ []) (h : r.parserName = .ok parser) :
    r.grammar.breaksLine = r.grammar.breaksLineIn typesAttribute := by
  cases hvalue : r.grammar.attributes.get? parserAttribute with
  | none =>
      have hfirst := Grammar.breaksLineIn_of_none hvalue
      simp [Grammar.breaksLine, hrules, hvalue, hfirst]
  | some value =>
      rw [parserName_of_some hvalue] at h
      have hfirst := (Grammar.breaksLineIn_of_some hvalue).2 (oneLine_trim_of_nameFrom h)
      have hparse : (LogicalName.parse value).isOk = true := by
        unfold nameFrom at h
        cases hparse : LogicalName.parse value with
        | error e =>
            rw [hparse] at h
            cases h
        | ok n => rfl
      simp [Grammar.breaksLine, hrules, hvalue, hfirst, hparse]

theorem inOneLine_of_parserName (hpackage : r.package = "") (hrules : r.grammar.rules ≠ [])
    (h : r.parserName = .error e) : e.InOneLine ↔ r.grammar.breaksLine = false := by
  cases hvalue : r.grammar.attributes.get? parserAttribute with
  | none =>
      obtain ⟨parser, hok⟩ := parserName_of_none hpackage hvalue
      rw [h] at hok
      cases hok
  | some value =>
      rw [parserName_of_some hvalue] at h
      have hparse : (LogicalName.parse value).isOk = false := by
        unfold nameFrom at h
        cases hparse : LogicalName.parse value with
        | error e => rfl
        | ok n =>
            rw [hparse] at h
            cases h
      rw [inOneLine_of_nameFrom (by decide) h, ← Grammar.breaksLineIn_of_some hvalue]
      simp [Grammar.breaksLine, hrules, hvalue, hparse]

/-- If there are artifacts, no line ends within a text that should be a name. -/
theorem breaksLine_of_ok {artifacts : List Artifact} (h : r.plan.artifacts = .ok artifacts) :
    r.grammar.breaksLine = false := by
  by_cases hrules : r.grammar.rules = []
  · simp [Grammar.breaksLine, hrules]
  · rw [plan_artifacts_eq hrules] at h
    cases hparser : r.parserName with
    | error e =>
        rw [hparser] at h
        cases h
    | ok parser =>
        rw [breaksLine_of_parserName hrules hparser]
        cases htypes : r.typesName parser with
        | error e =>
            simp only [hparser, htypes] at h
            cases h
        | ok types => exact breaksLineIn_of_typesName htypes

/-- If there are none, the reason is said in one line unless a line ends within such a text. -/
theorem inOneLine_of_error (hpackage : r.package = "") (h : r.plan.artifacts = .error e) :
    e.InOneLine ↔ r.grammar.breaksLine = false := by
  by_cases hrules : r.grammar.rules = []
  · rw [plan_of_no_rules hrules] at h
    cases h
  · rw [plan_artifacts_eq hrules] at h
    cases hparser : r.parserName with
    | error e' =>
        rw [hparser] at h
        cases h
        exact inOneLine_of_parserName hpackage hrules hparser
    | ok parser =>
        rw [breaksLine_of_parserName hrules hparser]
        cases htypes : r.typesName parser with
        | error e' =>
            simp only [hparser, htypes] at h
            cases h
            exact inOneLine_of_typesName htypes
        | ok types =>
            simp only [hparser, htypes] at h
            cases h

end Generation.Request

end GrammarForge
