import GrammarForge.Generation.Plan
import GrammarForge.Proofs.Generation.KeptRules
import GrammarForge.Proofs.Grammar.LineBreaks
import Mathlib

/-!
# Comments of generated units

Comments and documentation are laid out as one line each, whatever surrounds them, as long as their
texts have no line breaks. The only texts of a unit that can have one are the literals of the
grammar, which the documentation of a rule shows as they are.
-/

namespace GrammarForge.Code

/-! ## Lines -/

/-- A text that is one line, with its end. -/
def IsLine (s : String) : Prop := ∃ body, s = body ++ "\n" ∧ Unbroken body

/-- A text after which a line starts. -/
def EndsLine (s : String) : Prop := s = "" ∨ ∃ body, s = body ++ "\n"

theorem EndsLine.append {s t : String} (hs : EndsLine s) (ht : EndsLine t) : EndsLine (s ++ t) := by
  rcases ht with rfl | ⟨body, rfl⟩
  · rwa [String.append_empty]
  · exact .inr ⟨s ++ body, by rw [String.append_assoc]⟩

theorem endsLine_layLine (level : Nat) (text : String) : EndsLine (layLine level text) :=
  .inr ⟨_, rfl⟩

theorem unbroken_indentation (level : Nat) :
    Unbroken (String.join (List.replicate level indentation)) := by
  induction level with
  | zero => intro c hc; simp at hc
  | succ level ih =>
      rw [List.replicate_succ, String.join_cons, unbroken_append]
      exact ⟨by decide, ih⟩

theorem isLine_layLine (level : Nat) (text : String) :
    IsLine (layLine level text) ↔ Unbroken text := by
  constructor
  · rintro ⟨body, hbody, hunbroken⟩
    rw [← (String.append_left_inj _).1 hbody, unbroken_append] at hunbroken
    exact hunbroken.2
  · intro htext
    exact ⟨_, rfl, (unbroken_append ..).2 ⟨unbroken_indentation level, htext⟩⟩

/-! ## Remarks -/

mutual

/-- The comments and the documentation of an item, at any depth. -/
def Item.remarks : Item → List Item
  | .comment text => [.comment text]
  | .doc text => [.doc text]
  | .block _ body => remarksOf body
  | .branch _ body other => remarksOf body ++ remarksOf other
  | .line _ | .blank | .indent | .dedent => []

def remarksOf : List Item → List Item
  | [] => []
  | item :: rest => item.remarks ++ remarksOf rest

end

@[simp] theorem remarksOf_append (items more : List Item) :
    remarksOf (items ++ more) = remarksOf items ++ remarksOf more := by
  induction items with
  | nil => rfl
  | cons item items ih => simp [remarksOf, ih]

@[simp] theorem remarksOf_map_line {α : Type} (text : α → String) (as : List α) :
    remarksOf (as.map fun a => .line (text a)) = [] := by
  induction as with
  | nil => rfl
  | cons a as ih => simp [remarksOf, Item.remarks, ih]

/-- A remark stands somewhere in the text, where a line starts. -/
def Shows (text : String) (remark : Item) : Prop :=
  ∃ before level after, text = before ++ (remark.lay level).1 ++ after ∧ EndsLine before

theorem Shows.append_left {text : String} {remark : Item} (h : Shows text remark) {more : String}
    (hmore : EndsLine more) : Shows (more ++ text) remark := by
  obtain ⟨before, level, after, rfl, hbefore⟩ := h
  exact ⟨more ++ before, level, after, by simp [String.append_assoc], hmore.append hbefore⟩

theorem Shows.append_right {text : String} {remark : Item} (h : Shows text remark) (more : String) :
    Shows (text ++ more) remark := by
  obtain ⟨before, level, after, rfl, hbefore⟩ := h
  exact ⟨before, level, after ++ more, by simp [String.append_assoc], hbefore⟩

theorem layItems_cons (level : Nat) (item : Item) (rest : List Item) :
    (layItems level (item :: rest)).1 =
      (item.lay level).1 ++ (layItems (item.lay level).2 rest).1 := rfl

theorem lay_block (level : Nat) (header : String) (body : List Item) :
    ((Item.block header body).lay level).1 =
      layLine level (header ++ " \x7b") ++ (layItems (level + 1) body).1 ++
        layLine ((layItems (level + 1) body).2 - 1) "\x7d" := rfl

theorem lay_branch (level : Nat) (condition : String) (body other : List Item) :
    ∃ between last, ((Item.branch condition body other).lay level).1 =
      layLine level ("if " ++ condition ++ " \x7b") ++ (layItems (level + 1) body).1 ++
        layLine between "\x7d else \x7b" ++ (layItems (between + 1) other).1 ++
        layLine last "\x7d" := ⟨_, _, rfl⟩

mutual

theorem endsLine_lay : (item : Item) → (level : Nat) → EndsLine (item.lay level).1
  | .line _, _ | .comment _, _ | .doc _, _ => endsLine_layLine ..
  | .blank, _ => .inr ⟨"", rfl⟩
  | .indent, _ | .dedent, _ => .inl rfl
  | .block header body, level => by
      rw [lay_block]
      exact ((endsLine_layLine ..).append (endsLine_layItems body _)).append (endsLine_layLine ..)
  | .branch condition body other, level => by
      obtain ⟨between, last, heq⟩ := lay_branch level condition body other
      rw [heq]
      exact ((((endsLine_layLine ..).append (endsLine_layItems body _)).append
        (endsLine_layLine ..)).append (endsLine_layItems other _)).append (endsLine_layLine ..)

theorem endsLine_layItems : (items : List Item) → (level : Nat) →
    EndsLine (layItems level items).1
  | [], _ => .inl rfl
  | item :: rest, level => by
      rw [layItems_cons]
      exact (endsLine_lay item level).append (endsLine_layItems rest _)

end

mutual

/-- Every remark is shown by the item that it is in. -/
theorem shows_lay {remark : Item} : (item : Item) → (level : Nat) → remark ∈ item.remarks →
    Shows (item.lay level).1 remark
  | .comment text, level, h | .doc text, level, h => by
      obtain rfl := List.mem_singleton.1 h
      exact ⟨"", level, "", by simp, .inl rfl⟩
  | .line _, _, h | .blank, _, h | .indent, _, h | .dedent, _, h => by cases h
  | .block header body, level, h => by
      rw [lay_block]
      exact ((shows_layItems body _ h).append_left (endsLine_layLine ..)).append_right _
  | .branch condition body other, level, h => by
      obtain ⟨between, last, heq⟩ := lay_branch level condition body other
      rw [heq]
      rcases List.mem_append.1 h with h | h
      · exact ((((shows_layItems body _ h).append_left (endsLine_layLine ..)).append_right
          _).append_right _).append_right _
      · refine ((shows_layItems other _ h).append_left ?_).append_right _
        exact ((endsLine_layLine ..).append (endsLine_layItems body _)).append (endsLine_layLine ..)

theorem shows_layItems {remark : Item} : (items : List Item) → (level : Nat) →
    remark ∈ remarksOf items → Shows (layItems level items).1 remark
  | [], _, h => by cases h
  | item :: rest, level, h => by
      rw [layItems_cons]
      rcases List.mem_append.1 h with h | h
      · exact (shows_lay item level h).append_right _
      · exact (shows_layItems rest _ h).append_left (endsLine_lay item level)

end

/-! ## Units -/

/-- Every remark is laid out as one line. -/
def AreLines (remarks : List Item) : Prop := ∀ item ∈ remarks, ∀ level, IsLine (item.lay level).1

@[simp] theorem areLines_nil : AreLines [] := by simp [AreLines]

@[simp] theorem areLines_append (items more : List Item) :
    AreLines (items ++ more) ↔ AreLines items ∧ AreLines more := by
  simp [AreLines, or_imp, forall_and]

@[simp] theorem areLines_comment (text : String) (rest : List Item) :
    AreLines (.comment text :: rest) ↔ Unbroken text ∧ AreLines rest := by
  have hmark : Unbroken "// " := by decide
  simp [AreLines, Item.lay, isLine_layLine, hmark]

@[simp] theorem areLines_doc (text : String) (rest : List Item) :
    AreLines (.doc text :: rest) ↔ Unbroken text ∧ AreLines rest := by
  have hmark : Unbroken "/// " := by decide
  simp [AreLines, Item.lay, isLine_layLine, hmark]

theorem unbroken_between {before s after : String} (hbefore : Unbroken before) (hs : Unbroken s)
    (hafter : Unbroken after) : Unbroken (before ++ s ++ after) :=
  (unbroken_append ..).2 ⟨(unbroken_append ..).2 ⟨hbefore, hs⟩, hafter⟩

theorem unbroken_segment (segment : Segment) : Unbroken segment.text := by
  have h := segment.isIdentifier
  unfold Text.isIdentifier Text.isIdentifierChars at h
  split at h
  · cases h
  · rename_i c rest hs
    simp only [Bool.and_eq_true, List.all_eq_true] at h
    exact IsWord.unbroken ⟨c, rest, hs, h.1.1, h.1.2⟩

theorem areLines_header {header : Header} (hfile : Unbroken header.file)
    (hmodule : Unbroken header.moduleName) : AreLines (remarksOf header.items) := by
  have hgenerated :
      Unbroken s!"This file is generated by gramgen from {header.file}. Do not edit." :=
    unbroken_between (by decide) hfile (by decide)
  have hshown : Unbroken ("Module: " ++ header.moduleName) :=
    (unbroken_append ..).2 ⟨by decide, hmodule⟩
  unfold Header.items
  split
  · exact (areLines_comment ..).2 ⟨hgenerated, areLines_nil⟩
  · exact (areLines_comment ..).2 ⟨hgenerated, (areLines_comment ..).2 ⟨hshown, areLines_nil⟩⟩

theorem areLines_typesUnit {u : TypesUnit} (hheader : AreLines (remarksOf u.header.items))
    (hparser : Unbroken u.parser) : AreLines (remarksOf u.items) := by
  have hproduced : AreLines [.doc s!"Element types produced by `{u.parser}`."] :=
    (areLines_doc ..).2 ⟨unbroken_between (by decide) hparser (by decide), areLines_nil⟩
  have hfixed : AreLines [.doc "Token types referenced by the grammar.",
      .doc "The token name as written in the grammar."] := by
    simp only [areLines_doc, areLines_nil]
    decide
  have hremarks : remarksOf u.items = remarksOf u.header.items ++
      ([.doc s!"Element types produced by `{u.parser}`."] ++
        [.doc "Token types referenced by the grammar.",
          .doc "The token name as written in the grammar."]) := by
    simp [TypesUnit.items, remarksOf, Item.remarks, deriveLine]
  rw [hremarks, areLines_append, areLines_append]
  exact ⟨hheader, hproduced, hfixed⟩

theorem remarksOf_function (f : RuleFunction) : remarksOf f.items = [.doc f.docText] := by
  unfold RuleFunction.items RuleFunction.bodyItems
  cases f.element <;> rfl

theorem areLines_functions (functions : List RuleFunction) :
    AreLines (remarksOf (functions.flatMap (·.items))) ↔ ∀ f ∈ functions, Unbroken f.docText := by
  induction functions with
  | nil => simp [remarksOf]
  | cons f functions ih => simp [ih, remarksOf_function]

theorem areLines_root {u : ParserUnit} (h : ∀ f ∈ u.functions, Unbroken f.rule.name) :
    AreLines (remarksOf u.rootItems) := by
  unfold ParserUnit.rootItems
  split
  · exact areLines_nil
  · rename_i root rest hfunctions
    have hname := h root (by simp [hfunctions])
    exact (areLines_doc ..).2 ⟨unbroken_between (by decide) hname (by decide), areLines_nil⟩

theorem areLines_builder : AreLines (remarksOf ParserUnit.builderItems) := by
  simp only [ParserUnit.builderItems, remarksOf, Item.remarks, List.append_nil, List.cons_append,
    List.nil_append, areLines_doc, areLines_nil]
  decide

theorem areLines_parserUnit {u : ParserUnit} (hheader : AreLines (remarksOf u.header.items))
    (hfile : Unbroken u.header.file) (hnames : ∀ f ∈ u.functions, Unbroken f.rule.name) :
    AreLines (remarksOf u.items) ↔ ∀ f ∈ u.functions, Unbroken f.docText := by
  have hgenerated : AreLines [.doc s!"Parser generated from `{u.header.file}`."] :=
    (areLines_doc ..).2 ⟨unbroken_between (by decide) hfile (by decide), areLines_nil⟩
  have hremarks : remarksOf u.items = remarksOf u.header.items ++
      (remarksOf ParserUnit.builderItems ++ ([.doc s!"Parser generated from `{u.header.file}`."] ++
        (remarksOf u.rootItems ++ remarksOf (u.functions.flatMap (·.items))))) := by
    simp [ParserUnit.items, remarksOf, Item.remarks]
  rw [hremarks]
  simp only [areLines_append, hheader, areLines_builder, hgenerated, areLines_root hnames,
    areLines_functions, true_and]

/-- The documentation of a rule has a line break only if a literal of the rule has one. -/
theorem unbroken_docText {f : RuleFunction} (hname : Unbroken f.rule.name)
    (hnormal : f.rule.expr.IsNormal) :
    Unbroken f.docText ↔ ∀ text ∈ f.rule.expr.literals, Unbroken text := by
  have hdoc : f.docText = "`" ++ f.rule.name ++ " ::= " ++ f.rule.expr.display ++ "`" := rfl
  have hquote : Unbroken "`" := by decide
  have hdefine : Unbroken " ::= " := by decide
  rw [hdoc, ← Expr.unbroken_display hnormal]
  simp only [unbroken_append, hname, hquote, hdefine, and_true, true_and]

theorem doc_mem_functions {functions : List RuleFunction} {f : RuleFunction}
    (hf : f ∈ functions) : .doc f.docText ∈ remarksOf (functions.flatMap (·.items)) := by
  induction functions with
  | nil => cases hf
  | cons f' functions ih =>
      rw [List.flatMap_cons, remarksOf_append, List.mem_append]
      rcases List.mem_cons.1 hf with rfl | hf
      · exact .inl (by simp [remarksOf_function])
      · exact .inr (ih hf)

theorem doc_mem_remarks {u : ParserUnit} {f : RuleFunction} (hf : f ∈ u.functions) :
    .doc f.docText ∈ remarksOf u.items := by
  simp [ParserUnit.items, remarksOf, Item.remarks, doc_mem_functions hf]

/-- Every comment of the units of a parsed grammar is one line exactly if no literal of a kept rule
has a line break in it. The documentation of every rule is then a line of its own. -/
theorem remarks_are_lines_iff {env : Environment} {name text : String} {g : Grammar}
    (hfactory : env.factory? Environment.grammarLanguage = some .standard)
    (hparse : env.parseGrammar name text = .ok g) (header : Header) (hfile : Unbroken header.file)
    (hmodule : Unbroken header.moduleName) (parser types : LogicalName) :
    (AreLines (remarksOf (TypesUnit.ofAnalysis header parser (.ofGrammar g)).items ++
        remarksOf (ParserUnit.ofAnalysis header parser types (.ofGrammar g)).items) ↔
      ∀ r ∈ (Analysis.ofGrammar g).rules, ∀ text ∈ r.expr.literals, Unbroken text) ∧
    ((∀ r ∈ (Analysis.ofGrammar g).rules, ∀ text ∈ r.expr.literals, Unbroken text) →
      ∀ r ∈ (Analysis.ofGrammar g).rules, ∃ before level after,
        (ParserUnit.ofAnalysis header parser types (.ofGrammar g)).text =
          before ++ layLine level ("/// " ++ s!"`{r.name} ::= {r.expr.display}`") ++ after ∧
        EndsLine before ∧ Unbroken r.expr.display) := by
  have hnormal (r : Rule) (hr : r ∈ (Analysis.ofGrammar g).rules) :=
    Environment.isNormal_of_parseGrammar hfactory hparse r (Analysis.mem_of_mem_rules hr)
  have hheader := areLines_header hfile hmodule
  constructor
  · have htypes : AreLines (remarksOf (TypesUnit.ofAnalysis header parser (.ofGrammar g)).items) :=
      areLines_typesUnit hheader (unbroken_segment parser.simple)
    have hparser := areLines_parserUnit (u := .ofAnalysis header parser types (.ofGrammar g))
      hheader hfile (by simpa [ParserUnit.ofAnalysis, RuleFunction.ofRule] using
        fun r hr => (hnormal r hr).1.unbroken)
    rw [areLines_append, and_iff_right htypes, hparser]
    simp only [ParserUnit.ofAnalysis, List.forall_mem_map]
    exact forall₂_congr fun r hr => unbroken_docText (hnormal r hr).1.unbroken (hnormal r hr).2
  · intro hliterals r hr
    have hf : RuleFunction.ofRule (Analysis.ofGrammar g).isDefined r ∈
        (ParserUnit.ofAnalysis header parser types (.ofGrammar g)).functions :=
      List.mem_map_of_mem hr
    obtain ⟨before, level, after, htext, hbefore⟩ := shows_layItems _ 0 (doc_mem_remarks hf)
    exact ⟨before, level, after, htext, hbefore,
      (Expr.unbroken_display (hnormal r hr).2).2 (hliterals r hr)⟩

/-- The end of a block comment and a quote are no line breaks. -/
theorem remarks_are_lines_of_marks : ∃ g,
    Environment.standard.parseGrammar "test.bnf" "a ::= ('*/' | B)+ '\\''" = .ok g ∧
    ∀ parser types : LogicalName,
      AreLines (remarksOf (TypesUnit.ofAnalysis ⟨"test.bnf", ""⟩ parser (.ofGrammar g)).items ++
        remarksOf (ParserUnit.ofAnalysis ⟨"test.bnf", ""⟩ parser types (.ofGrammar g)).items) := by
  obtain ⟨g, hparse, r, hrules, hliterals⟩ : ∃ g,
      Environment.standard.parseGrammar "test.bnf" "a ::= ('*/' | B)+ '\\''" = .ok g ∧
      ∃ r, (Analysis.ofGrammar g).rules = [r] ∧ r.expr.literals = ["*/", "'"] :=
    ⟨_, by cbv, _, by cbv, by cbv⟩
  refine ⟨g, hparse, fun parser types => ?_⟩
  have hfile : Unbroken "test.bnf" := by decide
  have hmodule : Unbroken "" := by decide
  refine (remarks_are_lines_iff rfl hparse ⟨"test.bnf", ""⟩ hfile hmodule parser types).1.2
    fun r' hr' => ?_
  obtain rfl := List.mem_singleton.1 (hrules ▸ hr')
  rw [hliterals]
  decide

/-- A line feed in a literal ends the line of the documentation; what comes after it is not marked
as a comment. -/
theorem doc_breaks_off : ∃ g,
    Environment.standard.parseGrammar "test.bnf" "a ::= '\\n'" = .ok g ∧
    ∀ parser types : LogicalName,
      ¬ AreLines (remarksOf
        (ParserUnit.ofAnalysis ⟨"test.bnf", ""⟩ parser types (.ofGrammar g)).items) ∧
      ∃ before level after,
        (ParserUnit.ofAnalysis ⟨"test.bnf", ""⟩ parser types (.ofGrammar g)).text =
          before ++ (layLine level "/// `a ::= '" ++ "'`\n") ++ after := by
  obtain ⟨g, hparse, r, hrules, hname, hexpr⟩ : ∃ g,
      Environment.standard.parseGrammar "test.bnf" "a ::= '\\n'" = .ok g ∧
      ∃ r, (Analysis.ofGrammar g).rules = [r] ∧ r.name = "a" ∧ r.expr = .literal "\n" :=
    ⟨_, by cbv, _, by cbv, by cbv, by cbv⟩
  refine ⟨g, hparse, fun parser types => ?_⟩
  have hf : RuleFunction.ofRule (Analysis.ofGrammar g).isDefined r ∈
      (ParserUnit.ofAnalysis ⟨"test.bnf", ""⟩ parser types (.ofGrammar g)).functions :=
    List.mem_map_of_mem (by simp [hrules])
  have hdoc : (RuleFunction.ofRule (Analysis.ofGrammar g).isDefined r).docText =
      "`a ::= '\n'`" := by
    show s!"`{r.name} ::= {r.expr.display}`" = _
    rw [hname, hexpr]
    decide +kernel
  have hmem := hdoc ▸ doc_mem_remarks hf
  constructor
  · intro hlines
    have hline := (isLine_layLine 0 _).1 (hlines _ hmem 0)
    exact absurd hline (by decide)
  · obtain ⟨before, level, after, htext, -⟩ := shows_layItems _ 0 hmem
    refine ⟨before, level, after, htext.trans ?_⟩
    have hline : ((Item.doc "`a ::= '\n'`").lay level).1 =
        layLine level "/// `a ::= '" ++ "'`\n" := by
      simp only [Item.lay, layLine, String.append_assoc]
      rfl
    rw [hline]

end GrammarForge.Code
