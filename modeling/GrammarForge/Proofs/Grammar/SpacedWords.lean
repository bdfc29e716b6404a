import GrammarForge.Proofs.Grammar.BalancedBraces
import GrammarForge.Proofs.Grammar.MovedTokens
import GrammarForge.Proofs.Grammar.TokenShapes
import Mathlib

/-!
# Layout does not matter

Words with spacing between them are scanned to these words, whatever the spacing consists of. And
what a text is parsed to depends on the kinds and texts of its tokens alone, so texts that differ in
their layout are the same grammar, but for the spans of the rules.
-/

namespace GrammarForge

/-- Blanks, block comments, and line comments with the line feeds that end them. -/
inductive Spacing : List Char → Prop
  | nil : Spacing []
  | blank {c : Char} {cs : List Char} : Text.isAsciiBlank c = true → Spacing cs → Spacing (c :: cs)
  | lineComment {line cs : List Char} : '\n' ∉ line → Spacing cs →
      Spacing ('/' :: '/' :: (line ++ '\n' :: cs))
  | blockComment {comment cs : List Char} : EndsComment comment → Spacing cs →
      Spacing ('/' :: '*' :: (comment ++ cs))

/-- Spacing at the end of a text. Its last line comment needs no line feed. -/
def LastSpacing (cs : List Char) : Prop :=
  Spacing cs ∨ ∃ front line, Spacing front ∧ '\n' ∉ line ∧ cs = front ++ '/' :: '/' :: line

/-- A token as it may stand in a text, and the spacing in front of it. -/
structure SpacedWord where
  spacing : String
  kind : TokenKind
  text : String
  isSpacing : Spacing spacing.toList
  shape : kind.Shape text.toList

/-- The text with these words, and with the spacing `last` at its end. -/
def layOut (last : String) : List SpacedWord → String
  | [] => last
  | w :: words => w.spacing ++ w.text ++ layOut last words

/-- Neighbours have spacing between them. -/
def AreSeparated (words : List SpacedWord) : Prop := ∀ w ∈ words.tail, w.spacing ≠ ""

/-- The same grammar wherever its rules stand. -/
def Grammar.withoutSpans (g : Grammar) : Grammar :=
  { g with rules := g.rules.map Rule.withoutSpan }

theorem Spacing.gap {cs : List Char} (h : Spacing cs) (rest : List Char) : Gap rest cs := by
  induction h with
  | nil => exact .nil
  | blank hc _ ih => exact .blank hc ih
  | lineComment hline _ ih =>
      have hfeed : Text.isAsciiBlank '\n' = true := by decide
      exact .lineComment hline (Scan.endsLine_cons _) (.blank hfeed ih)
  | blockComment hcomment _ ih => exact .blockComment hcomment ih

theorem Gap.append {cs ds rest : List Char} (h : Gap (ds ++ rest) cs) (h' : Gap rest ds) :
    Gap rest (cs ++ ds) := by
  induction h with
  | nil => exact h'
  | blank hc _ ih => exact .blank hc ih
  | lineComment hline hafter _ ih =>
      rw [List.cons_append, List.cons_append, List.append_assoc]
      rw [← List.append_assoc] at hafter
      exact .lineComment hline hafter ih
  | blockComment hcomment _ ih =>
      rw [List.cons_append, List.cons_append, List.append_assoc]
      exact .blockComment hcomment ih

theorem LastSpacing.gap {cs : List Char} (h : LastSpacing cs) : Gap [] cs := by
  rcases h with h | ⟨front, line, hfront, hline, rfl⟩
  · exact h.gap []
  · have hcomment : Gap [] ('/' :: '/' :: (line ++ [])) :=
      .lineComment hline Scan.endsLine_nil .nil
    rw [List.append_nil] at hcomment
    exact (hfront.gap _).append hcomment

/-- A name ends where a gap begins. -/
theorem Gap.boundary {rest cs : List Char} (h : Gap rest cs) (hcs : cs ≠ []) (more : List Char) :
    Scan.Boundary (cs ++ more) := by
  cases h with
  | nil => exact (hcs rfl).elim
  | blank hc => exact Scan.boundary_cons (Scan.not_identRest_of_blank hc)
  | lineComment => exact Scan.boundary_cons (by decide)
  | blockComment => exact Scan.boundary_cons (by decide)

namespace Scan

open Derived

/-- Behind a word comes spacing, or the text is over. -/
theorem boundary_layOut {last : String} (hlast : LastSpacing last.toList) {words : List SpacedWord}
    (hwords : ∀ w ∈ words, w.spacing ≠ "") : Boundary (layOut last words).toList := by
  cases words with
  | nil =>
      by_cases hempty : last.toList = []
      · rw [layOut, hempty]
        intro c hc
        cases hc
      · have hboundary := hlast.gap.boundary hempty []
        rwa [List.append_nil] at hboundary
  | cons w words =>
      have hspacing : w.spacing.toList ≠ [] := by
        rw [Ne, String.toList_eq_nil_iff]
        exact hwords w (List.mem_cons_self ..)
      rw [layOut, String.append_assoc, String.toList_append]
      exact (w.isSpacing.gap []).boundary hspacing _

theorem scans_layOut {last : String} (hlast : LastSpacing last.toList) {words : List SpacedWord}
    (hwords : AreSeparated words) (pos : Nat) : ∃ ts, Scans [] pos (layOut last words).toList ts ∧
      ts.map (fun t => (t.kind, t.text)) = words.map fun w => (w.kind, w.text) := by
  induction words generalizing pos with
  | nil => exact ⟨[], (scans_nil_iff [] pos _).2 hlast.gap, rfl⟩
  | cons w words ih =>
      have hrest : AreSeparated words := fun v hv => hwords v (List.mem_of_mem_tail hv)
      let start := pos + byteLength w.spacing.toList
      obtain ⟨ts, hts, hsame⟩ := ih hrest (start + byteLength w.text.toList)
      have hfits : Fits (some w.kind) w.text.toList ((layOut last words).toList ++ []) := by
        rw [List.append_nil]
        exact ⟨(w.kind.spells_iff_shape _).2 w.shape, fun _ => boundary_layOut hlast hwords⟩
      have hword := Scans.token hfits hts
      have hspacing := (scans_nil_iff _ pos _).2 (w.isSpacing.gap
        ((w.text.toList ++ (layOut last words).toList) ++ []))
      have hall := hspacing.append hword
      rw [layOut, String.append_assoc, String.toList_append, String.toList_append]
      exact ⟨_, hall, by simp [hsame]⟩

theorem scan_layOut {last : String} (hlast : LastSpacing last.toList) {words : List SpacedWord}
    (hwords : AreSeparated words) : ∃ ts, scan (layOut last words) = .ok ts ∧
      ts.map (fun t => (t.kind, t.text)) = words.map fun w => (w.kind, w.text) := by
  obtain ⟨ts, hts, hsame⟩ := scans_layOut hlast hwords 0
  exact ⟨ts, (scan_iff _ _).2 hts, hsame⟩

end Scan

theorem BraceMatcher.checkFrom_of_alike {m : BraceMatcher} {stack stack' : List (Char × Span)}
    {ts us : List Token} (h : m.checkFrom stack ts = .ok ()) (hts : Derived.Alike ts us)
    (hstack : stack.map Prod.fst = stack'.map Prod.fst) : m.checkFrom stack' us = .ok () := by
  fun_induction checkFrom m stack ts generalizing us stack' with
  | case1 =>
      rw [hts.eq_nil, List.map_eq_nil_iff.1 hstack.symm]
      rfl
  | case2 => cases h
  | case3 stack t rest hbrace ih =>
      obtain ⟨u, us, rfl, hkind, -, hus⟩ := hts.cons_inv
      rw [checkFrom_of_no_brace (by rw [hkind, hbrace])]
      exact ih h hus hstack
  | case4 stack t rest c hbrace hopens ih =>
      obtain ⟨u, us, rfl, hkind, -, hus⟩ := hts.cons_inv
      rw [checkFrom, hkind, hbrace]
      simp only [hopens, if_true]
      exact ih h hus (by simp [hstack])
  | case5 => cases h
  | case6 t rest c hbrace hopens hcloses opening span outer hpair ih =>
      obtain ⟨u, us, rfl, hkind, -, hus⟩ := hts.cons_inv
      obtain ⟨⟨_, span'⟩, outer', rfl, rfl, houter⟩ := List.map_eq_cons_iff.1 hstack.symm
      rw [checkFrom, hkind, hbrace]
      simp only [hopens, hcloses, hpair, if_true, if_false, Bool.false_eq_true]
      exact ih h hus houter.symm
  | case7 => cases h
  | case8 stack t rest c hbrace hopens hcloses ih =>
      obtain ⟨u, us, rfl, hkind, -, hus⟩ := hts.cons_inv
      rw [checkFrom, hkind, hbrace]
      simp only [hopens, hcloses, if_false, Bool.false_eq_true]
      exact ih h hus hstack

namespace Environment

open Derived

variable {env : Environment}

theorem parseGrammar_of_alike (hfactory : env.factory? grammarLanguage = some .standard)
    {name text text' : String} {ts us : List Token} (hts : Scan.scan text = .ok ts)
    (hus : Scan.scan text' = .ok us) (h : Alike ts us) {g : Grammar}
    (hg : env.parseGrammar name text = .ok g) :
    ∃ g', env.parseGrammar name text' = .ok g' ∧ g'.withoutSpans = g.withoutSpans := by
  obtain ⟨tokens, hscan, hbraces, hread⟩ := parseGrammar_eq_ok hfactory hg
  obtain rfl : ts = tokens := Except.ok.inj (hts.symm.trans hscan)
  obtain ⟨pairs, hfile, hname, hattributes⟩ :=
    (GrammarFile.ofTokens_eq_ok (GrammarFile.wordsAreNames_of_scan hts) g).1 hread
  obtain ⟨rules, hfile', hrules⟩ := hfile.of_alike h
  have hbraces' : ∀ m ∈ env.matcher? grammarLanguage, m.check us = .ok () :=
    fun m hm => BraceMatcher.checkFrom_of_alike (hbraces m hm) h rfl
  refine ⟨⟨name, g.attributes, rules⟩, ?_, ?_⟩
  · rw [parseGrammar_of_scan hfactory hus hbraces']
    exact (GrammarFile.ofTokens_eq_ok (GrammarFile.wordsAreNames_of_scan hus) _).2
      ⟨pairs, hfile', rfl, hattributes⟩
  · rw [Grammar.withoutSpans, Grammar.withoutSpans, hrules, hname]

/-- Words are scanned to themselves if there is spacing between them, and any spacing will do. Texts
with the same tokens are parsed to grammars that are the same but for their spans, or neither text
is a grammar. -/
theorem layout_does_not_matter
    (hfactory : ∀ factory ∈ env.factory? grammarLanguage, factory = .standard) :
    (∀ words last, AreSeparated words → LastSpacing last.toList →
      ∃ ts, Scan.scan (layOut last words) = .ok ts ∧
        ts.map (fun t => (t.kind, t.text)) = words.map fun w => (w.kind, w.text)) ∧
    ∀ name text text' ts us, Scan.scan text = .ok ts → Scan.scan text' = .ok us → Alike ts us →
      (∃ g g', ParserDefinition.standard.parse env name text = .grammar g ∧
        ParserDefinition.standard.parse env name text' = .grammar g' ∧
        g'.withoutSpans = g.withoutSpans) ∨
      ∃ e e', ParserDefinition.standard.parse env name text = .failed e ∧
        ParserDefinition.standard.parse env name text' = .failed e' := by
  refine ⟨fun words last hwords hlast => Scan.scan_layOut hlast hwords, ?_⟩
  intro name text text' ts us hts hus halike
  simp only [ParserDefinition.standard_parse_eq_grammar, ParserDefinition.standard_parse_eq_failed]
  cases hfac : env.factory? grammarLanguage with
  | none =>
      rw [parseGrammar_of_no_factory hfac, parseGrammar_of_no_factory hfac]
      exact .inr ⟨_, _, rfl, rfl⟩
  | some factory =>
      rw [hfactory factory hfac] at hfac
      cases hg : env.parseGrammar name text with
      | ok g =>
          obtain ⟨g', hg', hsame⟩ := parseGrammar_of_alike hfac hts hus halike hg
          rw [hg']
          exact .inl ⟨g, g', rfl, rfl, hsame⟩
      | error e =>
          cases hg' : env.parseGrammar name text' with
          | error e' => exact .inr ⟨e, e', rfl, rfl⟩
          | ok g' =>
              obtain ⟨g, hok, -⟩ := parseGrammar_of_alike hfac hus hts halike.symm hg'
              rw [hg] at hok
              cases hok

/-- The comments hold quotes, stars and braces, and the literal an opening of a comment, a character
of two bytes behind a backslash and a line feed behind another. -/
theorem layout_does_not_matter_around_comments : ∃ words : List SpacedWord,
    layOut "// \x7b" words = "/***/a// '\n::=\t'/*\\é\\\n'/* \" ** /*/ *// \x7b" ∧
      ∃ g g', ParserDefinition.standard.parse standard "g" (layOut "// \x7b" words) = .grammar g ∧
        ParserDefinition.standard.parse standard "g" "a::='/*\\é\\\n'*" = .grammar g' ∧
        g'.withoutSpans = g.withoutSpans ∧ g'.rules.map (·.name) = ["a"] := by
  have hline : Spacing ('/' :: '/' :: ([' ', '\''] ++ '\n' :: [])) := .lineComment (by decide) .nil
  have hliteral : LiteralBody '\'' ['/', '*', '\\', 'é', '\\', '\n'] :=
    .plain (by decide) (by decide) (by decide) (.plain (by decide) (by decide) (by decide)
      (.escaped (.escaped .nil)))
  let name : SpacedWord := ⟨"/***/", .ident, "a",
    .blockComment ⟨['*'], rfl, by decide⟩ .nil, 'a', [], rfl, rfl, by simp⟩
  let define : SpacedWord := ⟨"// '\n", .define, "::=", hline, rfl⟩
  let literal : SpacedWord := ⟨"\t", .quoted, "'/*\\é\\\n'", .blank (by decide) .nil,
    '\'', _, .inr rfl, hliteral, rfl⟩
  let star : SpacedWord := ⟨"/* \" ** /*/ ", .star, "*",
    .blockComment ⟨" \" ** /".toList, rfl, by decide⟩ (.blank (by decide) .nil), '*', rfl, rfl⟩
  have hlast : LastSpacing "// \x7b".toList :=
    .inr ⟨[], [' ', '\x7b'], .nil, by decide, rfl⟩
  have hseparated : AreSeparated [name, define, literal, star] := by
    simp [AreSeparated, define, literal, star]
  have hfactory : ∀ factory ∈ standard.factory? grammarLanguage, factory = .standard :=
    fun factory h => (Option.some.inj h).symm
  obtain ⟨hscanned, hparsed⟩ := layout_does_not_matter hfactory
  obtain ⟨ts, hts, hsame⟩ := hscanned _ "// \x7b" hseparated hlast
  obtain ⟨us, hus, hwords⟩ : ∃ us, Scan.scan "a::='/*\\é\\\n'*" = .ok us ∧
      us.map (fun t => (t.kind, t.text)) =
        [(.ident, "a"), (.define, "::="), (.quoted, "'/*\\é\\\n'"), (.star, "*")] :=
    ⟨_, by cbv, rfl⟩
  obtain ⟨g', hg', hnames⟩ : ∃ g',
      ParserDefinition.standard.parse standard "g" "a::='/*\\é\\\n'*" = .grammar g' ∧
        g'.rules.map (·.name) = ["a"] := ⟨_, by cbv, rfl⟩
  have halike : Alike ts us := hsame.trans hwords.symm
  refine ⟨[name, define, literal, star], rfl, ?_⟩
  rcases hparsed "g" _ _ ts us hts hus halike with ⟨g, g₁, hg, hg₁, hspans⟩ | ⟨e, e', -, he'⟩
  · obtain rfl : g₁ = g' := ParsedUnit.grammar.inj (hg₁.symm.trans hg')
    exact ⟨g, g₁, hg, hg', hspans, hnames⟩
  · rw [hg'] at he'
    cases he'

end Environment

end GrammarForge
