import GrammarForge.Proofs.Code.Completeness
import Mathlib

/-!
# Generated parsers mean what their grammars say

The text of a generated parser is read as a program, and so is the code of every expression of its
rules. Run on a builder that follows a token stream, the program does at every position what the
grammar says, and it does nothing else: a result is a match or a failure of the grammar, and where
the grammar has neither, there is no result.
-/

namespace GrammarForge.Code

variable {σ μ : Type}

/-- The results of a run from a state are the meanings there. A failure moves nowhere. -/
structure Agrees (position : σ → Nat) (s : σ) (runs : Bool × σ → Prop)
    (means : Option Nat → Prop) : Prop where
  match_iff (q : Nat) : (∃ s', runs (true, s') ∧ position s' = q) ↔ means (some q)
  failure_iff : (∃ s', runs (false, s')) ↔ means none
  position_of_failure (s' : σ) (h : runs (false, s')) : position s' = position s
  unique (r r' : Bool × σ) (h : runs r) (h' : runs r') : r = r'

theorem Agrees.of_reports {g : Grammar} {stream : List Terminal} {position : σ → Nat} {e : Expr}
    {s : σ} {runs : Bool × σ → Prop}
    (hreports : ∀ r, runs r → Reports g stream position e s r)
    (hunique : ∀ r r', runs r → runs r' → r = r')
    (hends : ∀ o, g.Matches stream e (position s) o → ∃ r, runs r) :
    Agrees position s runs (g.Matches stream e (position s)) := by
  refine ⟨fun q => ⟨?_, fun h => ?_⟩, ⟨?_, fun h => ?_⟩, fun s' h => ?_, hunique⟩
  · rintro ⟨s', hrun, rfl⟩
    exact (hreports _ hrun).outcome
  · obtain ⟨r, hrun⟩ := hends _ h
    obtain ⟨s', rfl, hq⟩ := (hreports r hrun).of_match h
    exact ⟨s', hrun, hq⟩
  · rintro ⟨s', hrun⟩
    exact (hreports _ hrun).outcome
  · obtain ⟨r, hrun⟩ := hends _ h
    obtain ⟨s', rfl, -⟩ := (hreports r hrun).of_failure h
    exact ⟨s', hrun⟩
  · exact (hreports _ h).position_eq rfl

section Agreement

variable [DecidableEq μ] {g : Grammar} {stream : List Terminal} {b : Builder σ μ}
  {position : σ → Nat}
  (hb : b.Follows (declarations (Analysis.ofGrammar g).tokens) stream position)
  (htokens : ((Analysis.ofGrammar g).tokens.map tokenVariant).Nodup)
  (hnames : ((Analysis.ofGrammar g).rules.map fun r => parseFunction r.name).Nodup)

include hb htokens hnames

theorem agrees_condition {e : Expr} (hmem : ∀ t ∈ e.tokens, t ∈ (Analysis.ofGrammar g).tokens)
    (m : Option μ) (s : σ) : Agrees position s
      ((Condition.ofExpr (Analysis.ofGrammar g).isDefined e).Evaluates b
        (programOf g) m s) (g.Matches stream e (position s)) :=
  .of_reports (fun _ h => evaluates_reports hb htokens hnames hmem h) (fun _ _ h h' => h.unique h')
    fun _ h => ends_of_matches hb htokens hnames h hmem m s rfl

theorem agrees_call {rule : Rule} (hrule : rule ∈ (Analysis.ofGrammar g).rules) (s : σ) :
    Agrees position s (Calls b (programOf g) (parseFunction rule.name) s)
      (g.Matches stream rule.expr (position s)) := by
  have hfind := Analysis.rule?_of_mem_rules hrule
  have hmem := Analysis.mem_tokens hrule
  refine .of_reports (fun r h => ?_) (fun _ _ h h' => h.unique h') fun o h => ?_
  · obtain ⟨count, hcall⟩ := h
    exact callOf_reports hb htokens hnames count hfind hcall
  · exact (ends_of_matches hb htokens hnames h hmem).call hb hnames hrule rfl

end Agreement

/-- The generated parser does what the grammar says, in all its functions and in the code of all
their parts. -/
theorem generated_parser_means_grammar {env : Environment} {name text : String} {g : Grammar}
    (hfactory : env.factory? Environment.grammarLanguage = some .standard)
    (hparse : env.parseGrammar name text = .ok g)
    (hnames : ((Analysis.ofGrammar g).rules.map fun r => parseFunction r.name).Nodup)
    (htokens : ((Analysis.ofGrammar g).tokens.map tokenVariant).Nodup)
    (header : Header) (parser types : LogicalName) :
    let a := Analysis.ofGrammar g
    let u := ParserUnit.ofAnalysis header parser types a
    ∃ program, List.Forall₂ (fun (f : RuleFunction) (function : Function) =>
        ∃ before level after, u.text = before ++ f.code level ++ after ∧
          Function.ofCode? (f.code level) = some function) u.functions program ∧
      ∀ (σ μ : Type) [DecidableEq μ] (b : Builder σ μ) (stream : List Terminal)
        (position : σ → Nat),
        b.Follows (TypesUnit.ofAnalysis header parser a).tokens stream position →
        ∀ rule ∈ a.rules, ∀ s,
          Agrees position s (Calls b program (parseFunction rule.name) s)
            (g.Matches stream rule.expr (position s)) ∧
          ∀ e ∈ rule.expr.parts,
            ∃ c, Condition.ofCode? (Condition.ofExpr a.isDefined e).code = some c ∧
              ∀ m, Agrees position s (c.Evaluates b program m s)
                (g.Matches stream e (position s)) := by
  intro a u
  have hnormal := Environment.isNormal_of_parseGrammar hfactory hparse
  refine ⟨programOf g, ?_, ?_⟩
  · have hprogram : programOf g = u.functions.map (·.toFunction) := by
      simp [programOf, u, a, ParserUnit.ofAnalysis]
    rw [hprogram, List.forall₂_map_right_iff, List.forall₂_same]
    intro f hf
    obtain ⟨rule, hrule, rfl⟩ := List.mem_map.1 hf
    obtain ⟨hname, hexpr⟩ := hnormal rule (Analysis.mem_of_mem_rules hrule)
    obtain ⟨before, level, after, htext⟩ := ParserUnit.text_of_mem hf
    have hreadable := RuleFunction.isReadable_ofRule a.isDefined hname hexpr
    exact ⟨before, level, after, htext, RuleFunction.ofCode?_code hreadable level⟩
  · intro σ μ _ b stream position hb rule hrule s
    refine ⟨agrees_call hb htokens hnames hrule s, fun e he => ?_⟩
    have hexpr := (hnormal rule (Analysis.mem_of_mem_rules hrule)).2
    have hpart := Expr.isNormal_of_mem_parts rule.expr hexpr he
    have hmem : ∀ t ∈ e.tokens, t ∈ a.tokens := fun t ht =>
      Analysis.mem_tokens hrule t (Expr.tokens_of_mem_parts rule.expr he ht)
    exact ⟨_, Condition.ofCode?_code (Condition.isReadable_ofExpr a.isDefined e hpart).1,
      fun m => agrees_condition hb htokens hnames hmem m s⟩

/-- The builder whose states and marks are positions in a token stream. -/
def Builder.ofStream (tokens : List TokenDeclaration) (stream : List Terminal) :
    Builder Nat Nat where
  consume variant p :=
    let found := stream[p]?.any fun t =>
      tokens.any fun d => d.variant = variant && d.token = t.kind
    (found, p + found.toNat)
  consumeText text p :=
    let found := stream[p]?.any (·.text = text)
    (found, p + found.toNat)
  mark p := (p, p)
  rollback m _ := m
  done _ _ p := p

theorem Builder.ofStream_follows (tokens : List TokenDeclaration) (stream : List Terminal) :
    (ofStream tokens stream).Follows tokens stream id where
  consume_iff variant p := by
    have hmem (kind : String) : (tokens.any fun d => d.variant = variant && d.token = kind) = true ↔
        ⟨variant, kind⟩ ∈ tokens := by
      rw [List.any_eq_true]
      constructor
      · rintro ⟨⟨v, k⟩, hd, heq⟩
        simp only [Bool.and_eq_true, decide_eq_true_eq] at heq
        obtain ⟨rfl, rfl⟩ := heq
        exact hd
      · intro hd
        exact ⟨_, hd, by simp⟩
    simp only [ofStream, id_eq, Option.any_eq_true, hmem, Option.mem_def]
  consumeText_iff text p := by simp [ofStream, Option.any_eq_true]
  position_consume _ _ := rfl
  position_consumeText _ _ := rfl
  position_mark _ := rfl
  mark_of_position h := h
  position_rollback _ _ := rfl
  position_done _ _ _ := rfl

/-- The second round of the list starts with `A` and fails at `y`, so that the parser stops before
it. The function of pairs goes back by itself. -/
theorem generated_parser_reads_pairs :
    ∃ g, Environment.standard.parseGrammar "g" "list ::= pair*\nprivate pair ::= A 'x'" = .ok g ∧
      ∃ parser types program, List.Forall₂ (fun (f : RuleFunction) (function : Function) =>
          ∃ level, Function.ofCode? (f.code level) = some function)
          (ParserUnit.ofAnalysis ⟨"g", ""⟩ parser types (Analysis.ofGrammar g)).functions program ∧
        Calls (Builder.ofStream (declarations (Analysis.ofGrammar g).tokens)
          [⟨"A", "1"⟩, ⟨"", "x"⟩, ⟨"A", "2"⟩, ⟨"", "y"⟩]) program "parse_list" 0 (true, 2) := by
  obtain ⟨g, hg, list, pair, hrules, hnames, htokens, hlist, hexpr, hpairExpr, hpair⟩ : ∃ g,
      Environment.standard.parseGrammar "g" "list ::= pair*\nprivate pair ::= A 'x'" = .ok g ∧
      ∃ list pair, (Analysis.ofGrammar g).rules = [list, pair] ∧
        ((Analysis.ofGrammar g).rules.map fun r => parseFunction r.name) =
          ["parse_list", "parse_pair"] ∧
        (Analysis.ofGrammar g).tokens.map tokenVariant = ["A"] ∧
        parseFunction list.name = "parse_list" ∧ list.expr = .zeroOrMore (.reference "pair") ∧
        pair.expr = .sequence [.token "A", .literal "x"] ∧ g.rule? "pair" = some pair :=
    ⟨_, by cbv, _, _, by cbv, by cbv, by cbv, by cbv, by cbv, by cbv, by cbv⟩
  have hmatch : g.Matches [⟨"A", "1"⟩, ⟨"", "x"⟩, ⟨"A", "2"⟩, ⟨"", "y"⟩] list.expr 0 (some 2) := by
    rw [hexpr]
    refine .zeroOrMore (.moves (.reference hpair ?_) (by decide) (.fails (.reference hpair ?_)))
    · rw [hpairExpr]
      exact .sequence (.cons (.token ⟨_, rfl, rfl⟩) (.cons (.literal ⟨_, rfl, rfl⟩) .nil))
    · rw [hpairExpr]
      exact .sequence (.cons (.token ⟨_, rfl, rfl⟩) (.fails (.literal_fails (by simp))))
  let name : LogicalName := ⟨[], ⟨"P", by decide, by decide⟩⟩
  obtain ⟨program, hprogram, hmeans⟩ := generated_parser_means_grammar
    rfl hg (by rw [hnames]; decide) (by rw [htokens]; decide) ⟨"g", ""⟩
    name name
  have hagrees := (hmeans Nat Nat _ [⟨"A", "1"⟩, ⟨"", "x"⟩, ⟨"A", "2"⟩, ⟨"", "y"⟩] id
    (Builder.ofStream_follows _ _) list (by simp [hrules]) 0).1
  obtain ⟨s', hcalls, rfl⟩ := (hagrees.match_iff 2).2 hmatch
  rw [hlist] at hcalls
  refine ⟨g, hg, name, name, program, hprogram.imp ?_, hcalls⟩
  rintro f function ⟨-, level, -, -, hcode⟩
  exact ⟨level, hcode⟩

end GrammarForge.Code
