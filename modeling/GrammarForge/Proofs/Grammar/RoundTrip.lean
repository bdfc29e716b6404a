import GrammarForge.Proofs.Grammar.BalancedBraces
import GrammarForge.Proofs.Grammar.PrintedText

/-!
# Printing and reading back

The printed form of an expression that has been read, put after `x ::= `, is parsed to the
expression again, with the braces checked. Only a line break in a literal is in the way.
-/

namespace GrammarForge

namespace Environment

open Derived

theorem standard_factory : standard.factory? grammarLanguage = some .standard := rfl

theorem standard_matcher : standard.matcher? grammarLanguage = some .standard := rfl

theorem parseGrammar_of_scan_error {name text : String} {error : GrammarError}
    (hscan : Scan.scan text = .error error) : standard.parseGrammar name text = .error error := by
  simp only [parseGrammar, standard_factory, bind, Except.bind, hscan]

/-- The tokens of `x ::= ` and a printed expression, if no line ends in a literal. -/
theorem yields_rule {e : Expr} (he : e.IsNormal) : Scan.Yields (e.Avoids '\n')
    (fun ts => ∃ name define body, ts = name :: define :: body ∧ name.kind = .ident ∧
      define.kind = .define ∧ Choice body e) ("x ::= " ++ e.display).toList := by
  have hbody := ((Scan.chars_yield e he).imp Iff.rfl fun ts hts => hts.choice).blank
  have hpiece (rest : List Char) : Scan.nextPiece ':' ([':', '='] ++ rest) =
      .ok ⟨some .define, [':', ':', '='], rest⟩ := rfl
  have hdefine := (hbody.symbol [':', '='] hpiece).blank
  have hname := Scan.Yields.word ⟨'x', [], rfl, by decide, by simp⟩
  have htext : ("x ::= " ++ e.display).toList =
      ['x'] ++ (' ' :: ':' :: ([':', '='] ++ ' ' :: e.chars)) := by
    simp [Expr.display]
  rw [htext]
  refine (hname.append hdefine (Scan.boundary_cons rfl)).imp (Iff.of_eq (true_and _)) ?_
  rintro _ ⟨_, _, rfl, ⟨name, rfl, hname, -⟩, define, body, rfl, hdefine, hbody⟩
  exact ⟨name, define, body, rfl, hname, hdefine, hbody⟩

/-- Name, `::=` and body are a file with one rule. -/
theorem file_of_choice {name define : Token} {body : List Token} {e : Expr}
    (hname : name.kind = .ident) (hdefine : define.kind = .define) (hbody : Choice body e) :
    File LeavesModifier (name :: define :: body) []
      [⟨name.text, false, e, spanOf (name :: define :: body)⟩] := by
  have hrule := RuleText.plain (.mk hname hdefine hbody) .absent
  have hend : LeavesModifier (name :: define :: body ++ []) [] := by
    rintro ⟨_, _, _, hnil, -⟩
    cases hnil
  have hfile := File.rule hrule hend .nil
  rwa [List.append_nil, List.append_nil] at hfile

/-- A normal expression without a line break in its literals is read back. -/
theorem parseGrammar_display {e : Expr} (he : e.IsNormal) (hlines : e.Avoids '\n')
    (name : String) : ∃ g r, standard.parseGrammar name ("x ::= " ++ e.display) = .ok g ∧
      g.rules = [r] ∧ r.expr = e := by
  obtain ⟨tokens, hreads, x, define, body, rfl, hx, hdefine, hbody⟩ := (yields_rule he 0).1 hlines
  have hscan : Scan.scan ("x ::= " ++ e.display) = .ok (x :: define :: body) := by
    have h := hreads [] (by simp [Scan.Boundary])
    rwa [List.append_nil, Scan.scanFrom, Except.map, List.append_nil] at h
  have hbraces : BraceMatcher.standard.check (x :: define :: body) = .ok () :=
    (Definition.mk hx hdefine hbody).balanced.check
  have hw := GrammarFile.wordsAreNames_of_scan hscan
  have hfile := file_of_choice hx hdefine hbody
  refine ⟨⟨name, Attributes.settled [], [⟨x.text, false, e, spanOf (x :: define :: body)⟩]⟩, _, ?_,
    rfl, rfl⟩
  rw [parseGrammar_of_scan standard_factory hscan (by simpa [standard_matcher] using hbraces)]
  exact (GrammarFile.ofTokens_eq_ok hw _).2 ⟨[], hfile, rfl, rfl⟩

/-- A line break in a literal of a normal expression breaks the literal off. -/
theorem parseGrammar_display_error {e : Expr} (he : e.IsNormal) (hlines : ¬ e.Avoids '\n')
    (name : String) : ∃ span, standard.parseGrammar name ("x ::= " ++ e.display) =
      .error (.unterminatedString span) := by
  obtain ⟨span, hspan⟩ := (yields_rule he 0).2 hlines
  refine ⟨span, parseGrammar_of_scan_error ?_⟩
  have h := hspan [] (by simp [Scan.Boundary])
  rwa [List.append_nil] at h

/-- The printed form of an expression of a parsed grammar is parsed to the same expression exactly
if no literal has a line break in it. If one has, it is reported as unterminated. -/
theorem display_parses_back {env : Environment} {name text : String} {g : Grammar}
    (hfactory : env.factory? grammarLanguage = some .standard)
    (hparse : env.parseGrammar name text = .ok g) (r : Rule) (hr : r ∈ g.rules) (name' : String) :
    ((∃ g' r', standard.parseGrammar name' ("x ::= " ++ r.expr.display) = .ok g' ∧
        g'.rules = [r'] ∧ r'.expr = r.expr) ↔
      ∀ text ∈ r.expr.literals, '\n' ∉ text.toList) ∧
    ((∃ text ∈ r.expr.literals, '\n' ∈ text.toList) →
      ∃ span, standard.parseGrammar name' ("x ::= " ++ r.expr.display) =
        .error (.unterminatedString span)) := by
  have hnormal := (isNormal_of_parseGrammar hfactory hparse r hr).2
  refine ⟨⟨?_, fun hlines => parseGrammar_display hnormal hlines name'⟩, ?_⟩
  · rintro ⟨g', r', hg', -⟩
    by_contra hlines
    obtain ⟨span, herror⟩ := parseGrammar_display_error hnormal hlines name'
    rw [herror] at hg'
    cases hg'
  · rintro ⟨text, htext, hmem⟩
    exact parseGrammar_display_error hnormal (fun hlines => hlines text htext hmem) name'

/-- A quote in a literal is escaped when it is printed; a line break is not. -/
theorem display_parses_back_or_breaks :
    (∃ g r, standard.parseGrammar "g" "a ::= (b | 'it\\'s')* []" = .ok g ∧ r ∈ g.rules ∧
      ∃ g' r', standard.parseGrammar "g" ("x ::= " ++ r.expr.display) = .ok g' ∧
        g'.rules = [r'] ∧ r'.expr = r.expr) ∧
    ∃ g r, standard.parseGrammar "g" "a ::= '\\n'" = .ok g ∧ r ∈ g.rules ∧
      ∃ span, standard.parseGrammar "g" ("x ::= " ++ r.expr.display) =
        .error (.unterminatedString span) := by
  constructor
  · obtain ⟨g, hg, r, hrules, hlines⟩ : ∃ g,
        standard.parseGrammar "g" "a ::= (b | 'it\\'s')* []" = .ok g ∧
        ∃ r, g.rules = [r] ∧ ∀ text ∈ r.expr.literals, '\n' ∉ text.toList :=
      ⟨_, by cbv, _, by cbv, by decide⟩
    have hr : r ∈ g.rules := by simp [hrules]
    exact ⟨g, r, hg, hr, (display_parses_back standard_factory hg r hr "g").1.2 hlines⟩
  · obtain ⟨g, hg, r, hrules, hlines⟩ : ∃ g, standard.parseGrammar "g" "a ::= '\\n'" = .ok g ∧
        ∃ r, g.rules = [r] ∧ ∃ text ∈ r.expr.literals, '\n' ∈ text.toList :=
      ⟨_, by cbv, _, by cbv, by decide⟩
    have hr : r ∈ g.rules := by simp [hrules]
    exact ⟨g, r, hg, hr, (display_parses_back standard_factory hg r hr "g").2 hlines⟩

end Environment

end GrammarForge
