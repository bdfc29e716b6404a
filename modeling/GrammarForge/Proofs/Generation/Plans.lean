import GrammarForge.Generation.Plan
import GrammarForge.Proofs.LogicalName.RoundTrip

/-!
# Plans

What is in a plan is settled by the request alone. A grammar with rules needs one or two names,
which are read from texts. If one of the texts is no name, the plan has no artifacts; otherwise it
has the types unit and the parser, which never have the same text.
-/

namespace GrammarForge

namespace Code

/-- Both units begin with the header. -/
theorem layout_header_append (h : Header) (items : List Item) :
    layout (h.items ++ items) = layout h.items ++ layout items := by
  by_cases hmodule : h.moduleName = ""
  · simp [layout, Header.items, hmodule, layItems, Item.lay, String.append_assoc]
  · simp [layout, Header.items, hmodule, layItems, Item.lay, String.append_assoc]

theorem head?_layout_doc (text : String) (items : List Item) :
    (layout (.doc text :: items)).toList.head? = some '/' := by
  simp [layout, layItems, Item.lay, layLine]

theorem head?_layout_line (c : Char) {text : String} (h : text.toList.head? = some c)
    (items : List Item) : (layout (.line text :: items)).toList.head? = some c := by
  simp [layout, layItems, Item.lay, layLine, h]

/-- After the header the types unit goes on with a comment, and the parser does not. -/
theorem types_text_ne_parser_text (header : Header) (parser types : LogicalName) (a : Analysis) :
    (TypesUnit.ofAnalysis header parser a).text ≠
      (ParserUnit.ofAnalysis header parser types a).text := by
  obtain ⟨doc, more, htypes⟩ : ∃ doc more, (TypesUnit.ofAnalysis header parser a).text =
      layout header.items ++ layout (.doc doc :: more) := ⟨_, _, layout_header_append header _⟩
  obtain ⟨rest, hparser⟩ : ∃ rest, (ParserUnit.ofAnalysis header parser types a).text =
      layout header.items ++ layout (.line
        ("use " ++ modulePathOf types ++ "::" ++ "\x7bElementType, TokenType\x7d;") :: rest) := by
    rw [ParserUnit.text, ParserUnit.items, List.append_assoc, List.append_assoc]
    exact ⟨_, layout_header_append header _⟩
  intro h
  rw [htypes, hparser] at h
  have hchars := congrArg String.toList h
  rw [String.toList_append, String.toList_append] at hchars
  have hheads := congrArg List.head? (List.append_cancel_left hchars)
  rw [head?_layout_doc, head?_layout_line 'u' (by simp)] at hheads
  exact absurd hheads (by decide)

end Code

namespace Generation.Request

variable (r : Request)

/-- Where the name of the parser comes from, and its text. -/
def parserSource : NameSource × String :=
  match r.grammar.attributes.get? parserAttribute with
  | some value => (.attribute parserAttribute, value)
  | none =>
    let package := if r.package = "" then defaultPackage else r.package
    (.package package, s!"{package}::{defaultParser}")

/-- The same for the types unit, if the grammar gives it a name of its own. -/
def typesSource? : Option (NameSource × String) :=
  (r.grammar.attributes.get? typesAttribute).map fun value => (.attribute typesAttribute, value)

/-- The texts that must be names. -/
def neededNames : List (NameSource × String) := r.parserSource :: r.typesSource?.toList

/-- The default simple name of the types unit. -/
def defaultTypesSegment : Segment := ⟨defaultTypes, by decide, by decide⟩

theorem parserName_eq : r.parserName =
    (LogicalName.parse r.parserSource.2).mapError (.invalidName r.parserSource.1) := by
  unfold parserName parserSource
  cases r.grammar.attributes.get? parserAttribute with
  | some value => rfl
  | none => rfl

/-- Beside a parser there is always a name for its types. -/
theorem typesName_of_none {r : Request} (h : r.typesSource? = none) (parser : LogicalName) :
    r.typesName parser = .ok ⟨parser.modules, defaultTypesSegment⟩ := by
  have hattribute : r.grammar.attributes.get? typesAttribute = none := by
    simpa [typesSource?] using h
  have hsibling : parser.sibling defaultTypes = .ok ⟨parser.modules, defaultTypesSegment⟩ :=
    parser.sibling_text defaultTypesSegment
  rw [typesName, hattribute]
  simp only [hsibling]
  rfl

theorem typesName_of_some {r : Request} {source : NameSource} {text : String}
    (h : r.typesSource? = some (source, text)) (parser : LogicalName) :
    r.typesName parser = (LogicalName.parse text).mapError (.invalidName source) := by
  unfold typesSource? at h
  unfold typesName
  cases hattribute : r.grammar.attributes.get? typesAttribute with
  | none =>
      rw [hattribute] at h
      cases h
  | some value =>
      rw [hattribute] at h
      cases h
      rfl

/-- The artifacts of a request whose names are valid. -/
def units (parser types : LogicalName) : List Artifact :=
  let header : Code.Header := ⟨fileNameOf r.grammar, r.moduleName⟩
  let a := Analysis.ofGrammar r.grammar
  [r.artifact types (Code.TypesUnit.ofAnalysis header parser a).text,
    r.artifact parser (Code.ParserUnit.ofAnalysis header parser types a).text]

theorem plan_of_no_rules {r : Request} (h : r.grammar.rules = []) :
    r.plan = ⟨[Warning.noRules.message (fileNameOf r.grammar)], .ok []⟩ := by
  rw [plan, h]
  rfl

/-- A grammar with rules has its artifacts if its names are valid, and none otherwise. -/
theorem plan_artifacts_eq {r : Request} (h : r.grammar.rules ≠ []) :
    r.plan.artifacts =
      match r.parserName with
      | .error e => .error e
      | .ok parser =>
        match r.typesName parser with
        | .error e => .error e
        | .ok types => .ok (r.units parser types) := by
  have hrules : r.grammar.rules.isEmpty = false := by simpa using h
  have hplan : r.plan.artifacts = r.artifacts (Analysis.ofGrammar r.grammar) := by
    simp only [plan, hrules]
    rfl
  rw [hplan, artifacts]
  cases r.parserName with
  | error e => rfl
  | ok parser =>
      change (r.typesName parser >>= _) = _
      simp only
      cases r.typesName parser with
      | error e => rfl
      | ok types => rfl

end Generation.Request

end GrammarForge
