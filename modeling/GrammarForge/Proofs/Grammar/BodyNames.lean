import GrammarForge.Proofs.Grammar.RuleSpans
import Mathlib

/-!
# Names and literals of a body

A body is turned into an expression without losing, repeating or moving any of its names and
literals. The tokens of the body are those within the span of the rule that come after its `::=`, so
they can be told from the scanned text and the span alone.
-/

namespace GrammarForge

/-- The names among the tokens. -/
def namesAmong (ts : List Token) : List String := (ts.filter (·.kind = .ident)).map (·.text)

/-- The texts that the literals among the tokens stand for. -/
def literalsAmong (ts : List Token) : List String :=
  (ts.filter (·.kind = .quoted)).map fun t => Quoted.unquote t.text

/-- Visiting the tokens from left to right meets these named tokens, references and literals. -/
structure Visits (ts : List Token) (tokens references literals : List String) : Prop where
  tokens_eq : tokens = (namesAmong ts).filter fun name => isTokenName name
  references_eq : references = (namesAmong ts).filter fun name => !isTokenName name
  literals_eq : literals = literalsAmong ts

namespace Visits

theorem nil : Visits [] [] [] [] := ⟨rfl, rfl, rfl⟩

theorem append {ts us : List Token} {tokens references literals : List String}
    {tokens' references' literals' : List String} (h : Visits ts tokens references literals)
    (h' : Visits us tokens' references' literals') :
    Visits (ts ++ us) (tokens ++ tokens') (references ++ references') (literals ++ literals') := by
  constructor
  · rw [h.tokens_eq, h'.tokens_eq]
    simp [namesAmong]
  · rw [h.references_eq, h'.references_eq]
    simp [namesAmong]
  · rw [h.literals_eq, h'.literals_eq]
    simp [literalsAmong]

/-- Punctuation is neither a name nor a literal. -/
theorem skip {t : Token} (hname : t.kind ≠ .ident) (hquoted : t.kind ≠ .quoted) :
    Visits [t] [] [] [] := by
  constructor <;> simp [namesAmong, literalsAmong, hname, hquoted]

theorem literal {t : Token} (h : t.kind = .quoted) :
    Visits [t] [] [] [Quoted.unquote t.text] := by
  constructor <;> simp [namesAmong, literalsAmong, h]

theorem token {t : Token} (h : t.kind = .ident) (hname : isTokenName t.text = true) :
    Visits [t] [t.text] [] [] := by
  constructor <;> simp [namesAmong, literalsAmong, h, hname]

theorem reference {t : Token} (h : t.kind = .ident) (hname : isTokenName t.text = false) :
    Visits [t] [] [t.text] [] := by
  constructor <;> simp [namesAmong, literalsAmong, h, hname]

variable {ts : List Token} {tokens references literals : List String} {last opening closing : Token}

theorem cons (h : Visits ts tokens references literals) (hname : opening.kind ≠ .ident)
    (hquoted : opening.kind ≠ .quoted) : Visits (opening :: ts) tokens references literals :=
  (skip hname hquoted).append h

theorem concat (h : Visits ts tokens references literals) (hname : last.kind ≠ .ident)
    (hquoted : last.kind ≠ .quoted) : Visits (ts ++ [last]) tokens references literals := by
  simpa using h.append (skip hname hquoted)

theorem enclosed (h : Visits ts tokens references literals) (ho : opening.kind ≠ .ident)
    (ho' : opening.kind ≠ .quoted) (hc : closing.kind ≠ .ident) (hc' : closing.kind ≠ .quoted) :
    Visits (opening :: (ts ++ [closing])) tokens references literals :=
  (h.concat hc hc').cons ho ho'

end Visits

theorem visits_single_iff {ts : List Token} {e : Expr} :
    Visits ts (Expr.tokensOf [e]) (Expr.referencesOf [e]) (Expr.literalsOf [e]) ↔
      Visits ts e.tokens e.references e.literals := by
  simp [Expr.tokensOf, Expr.referencesOf, Expr.literalsOf]

namespace Derived

mutual

/-- What derives visits the names and literals of its tokens, in their order. -/
theorem Choice.visits {ts : List Token} {e : Expr} :
    Choice ts e → Visits ts e.tokens e.references e.literals
  | .single h => visits_single_iff.1 h.visits
  | .several h _ => h.visits

theorem Alternatives.visits {ts : List Token} {es : List Expr} : Alternatives ts es →
    Visits ts (Expr.tokensOf es) (Expr.referencesOf es) (Expr.literalsOf es)
  | .last h => visits_single_iff.2 h.visits
  | .next hs hbar ha => hs.visits.append (ha.visits.cons (by simp [hbar]) (by simp [hbar]))

theorem Sequence.visits {ts : List Token} {e : Expr} :
    Sequence ts e → Visits ts e.tokens e.references e.literals
  | .single h => visits_single_iff.1 h.visits
  | .several h _ => h.visits

theorem Items.visits {ts : List Token} {es : List Expr} : Items ts es →
    Visits ts (Expr.tokensOf es) (Expr.referencesOf es) (Expr.literalsOf es)
  | .nil => .nil
  | .cons hp hi => hp.visits.append hi.visits

theorem Postfix.visits {ts : List Token} {e : Expr} :
    Postfix ts e → Visits ts e.tokens e.references e.literals
  | .primary h => h.visits
  | .star h hop => h.visits.concat (by simp [hop]) (by simp [hop])
  | .plus h hop => h.visits.concat (by simp [hop]) (by simp [hop])
  | .question h hop => h.visits.concat (by simp [hop]) (by simp [hop])

theorem Primary.visits {ts : List Token} {e : Expr} :
    Primary ts e → Visits ts e.tokens e.references e.literals
  | .token h hname => .token h ((namesToken_iff _).1 hname)
  | .reference h hname => .reference h (Bool.not_eq_true _ ▸ mt (namesToken_iff _).2 hname)
  | .literal h => .literal h
  | .parens ho h hc =>
      h.visits.enclosed (by simp [ho]) (by simp [ho]) (by simp [hc]) (by simp [hc])
  | .brackets ho h hc =>
      h.visits.enclosed (by simp [ho]) (by simp [ho]) (by simp [hc]) (by simp [hc])

end

end Derived

/-- The token stands within the span. -/
def Token.IsWithin (t : Token) (s : Span) : Prop :=
  s.start ≤ t.span.start ∧ t.span.stop ≤ s.stop

instance (t : Token) (s : Span) : Decidable (t.IsWithin s) :=
  inferInstanceAs (Decidable (_ ∧ _))

/-- The tokens of a text that stand within the rule, after its `::=`. -/
def Rule.bodyTokens (r : Rule) (ts : List Token) : List Token :=
  ((ts.filter fun t => t.IsWithin r.span).dropWhile fun t => t.kind ≠ .define).drop 1

namespace Derived

theorem isWithin_spanOf {core : List Token}
    (hordered : core.Pairwise fun t u => t.span.stop ≤ u.span.start)
    (hsize : ∀ t ∈ core, t.span.start < t.span.stop) : ∀ t ∈ core, t.IsWithin (spanOf core) := by
  intro t ht
  have hstart : (spanOf core).start ≤ t.span.start := by
    cases core with
    | nil => cases ht
    | cons first rest =>
        rcases List.mem_cons.1 ht with rfl | ht
        · exact le_rfl
        · have hfirst := hsize first (List.mem_cons_self ..)
          exact hfirst.le.trans ((List.pairwise_cons.1 hordered).1 t ht)
  have hstop : t.span.stop ≤ (spanOf core).stop := by
    rcases List.eq_nil_or_concat core with rfl | ⟨front, last, rfl⟩
    · cases ht
    · rw [List.concat_eq_append] at hordered hsize ht ⊢
      have hlast : (spanOf (front ++ [last])).stop = last.span.stop := by
        cases front <;> simp [spanOf]
      rw [hlast]
      rcases List.mem_append.1 ht with hfront | hmem
      · have hordered := (List.pairwise_append.1 hordered).2.2
        have hbefore := hordered t hfront last (List.mem_singleton_self _)
        exact hbefore.trans (hsize last (by simp)).le
      · rw [List.mem_singleton.1 hmem]
  exact ⟨hstart, hstop⟩

/-- The tokens from which a span is taken are those within it. -/
theorem filter_isWithin {us core vs : List Token} (hne : core ≠ [])
    (hordered : (us ++ (core ++ vs)).Pairwise fun t u => t.span.stop ≤ u.span.start)
    (hsize : ∀ t ∈ us ++ (core ++ vs), t.span.start < t.span.stop) :
    (us ++ (core ++ vs)).filter (fun t => t.IsWithin (spanOf core)) = core := by
  obtain ⟨-, hback, hfront⟩ := List.pairwise_append.1 hordered
  obtain ⟨hcore, -, hacross⟩ := List.pairwise_append.1 hback
  obtain ⟨⟨first, hfirst, hstart⟩, ⟨last, hlast, hstop⟩⟩ := exists_spanOf hne
  have hus : us.filter (fun t => t.IsWithin (spanOf core)) = [] := by
    refine List.filter_eq_nil_iff.2 fun t ht hwithin => ?_
    have hbefore := hfront t ht first (List.mem_append_left _ hfirst)
    have hlt := hsize t (by simp [ht])
    have hle := (of_decide_eq_true hwithin).1
    omega
  have hvs : vs.filter (fun t => t.IsWithin (spanOf core)) = [] := by
    refine List.filter_eq_nil_iff.2 fun t ht hwithin => ?_
    have hbehind := hacross last hlast t ht
    have hlt := hsize t (by simp [ht])
    have hle := (of_decide_eq_true hwithin).2
    omega
  have hall : core.filter (fun t => t.IsWithin (spanOf core)) = core := by
    refine List.filter_eq_self.2 fun t ht => decide_eq_true ?_
    exact isWithin_spanOf hcore (fun t ht => hsize t (by simp [ht])) t ht
  rw [List.filter_append, List.filter_append, hus, hvs, hall, List.nil_append, List.append_nil]

/-- The body of a rule is what comes after the first `::=` in its span. -/
theorem RuleText.exists_body {ts : List Token} {r : Rule} (h : RuleText ts r) :
    ∃ core stop body, ts = core ++ stop ∧ core ≠ [] ∧ r.span = spanOf core ∧
      (core.dropWhile fun t => t.kind ≠ .define).drop 1 = body ∧ Choice body r.expr := by
  cases h with
  | plain hdef _ =>
      cases hdef with
      | mk hname hdefine hbody =>
          exact ⟨_, _, _, rfl, by simp, rfl, by simp [hname, hdefine], hbody⟩
  | @modified word _ _ _ _ hword hdef _ =>
      cases hdef with
      | @mk name define body _ hname hdefine hbody =>
          exact ⟨word :: name :: define :: body, _, _, rfl, by simp, rfl,
            by simp [hword.1, hname, hdefine], hbody⟩

end Derived

namespace Environment

open Derived

/-- The names of a body are split, in order and with repeats, into the named tokens and the
references of its expression. Its literals are those of the expression. -/
theorem bodies_keep_names {env : Environment}
    (hfactory : env.factory? grammarLanguage = some .standard) {name text : String} {g : Grammar}
    (h : ParserDefinition.standard.parse env name text = .grammar g) :
    ∃ ts, Scan.scan text = .ok ts ∧ ∀ r ∈ g.rules,
      r.expr.tokens = (namesAmong (r.bodyTokens ts)).filter (fun name => isTokenName name) ∧
      r.expr.references = (namesAmong (r.bodyTokens ts)).filter (fun name => !isTokenName name) ∧
      r.expr.literals = literalsAmong (r.bodyTokens ts) := by
  obtain ⟨ts, pairs, hscan, hfile, -⟩ := file_of_parse hfactory h
  refine ⟨ts, hscan, fun r hr => ?_⟩
  obtain ⟨us, mid, vs, rfl, hmid⟩ := hfile.exists_ruleText r hr
  obtain ⟨core, stop, body, rfl, hne, hspan, rfl, hbody⟩ := hmid.exists_body
  obtain ⟨hordered, hsize⟩ := ((Scan.scan_iff _ _).1 hscan).ordered
  rw [List.append_assoc] at hordered hsize ⊢
  have hcore := filter_isWithin hne hordered fun t ht => (hsize t ht).2
  rw [Rule.bodyTokens, hspan, hcore]
  exact ⟨hbody.visits.tokens_eq, hbody.visits.references_eq, hbody.visits.literals_eq⟩

/-- A reference that is repeated in another group, and a literal of two bytes between the names. -/
theorem bodies_keep_repeated_names : ∃ g ts,
    ParserDefinition.standard.parse standard "g" "private a::=X b['é'|X(b c)*];" = .grammar g ∧
      Scan.scan "private a::=X b['é'|X(b c)*];" = .ok ts ∧
      g.rules.map (fun r => (r.expr.tokens, r.expr.references)) = [(["X", "X"], ["b", "b", "c"])] ∧
      ∀ r ∈ g.rules, r.expr.tokens =
          (namesAmong (r.bodyTokens ts)).filter (fun name => isTokenName name) ∧
        r.expr.references = (namesAmong (r.bodyTokens ts)).filter fun name => !isTokenName name := by
  obtain ⟨g, hg, hrules⟩ : ∃ g,
      ParserDefinition.standard.parse standard "g" "private a::=X b['é'|X(b c)*];" = .grammar g ∧
        g.rules.map (fun r => (r.expr.tokens, r.expr.references)) =
          [(["X", "X"], ["b", "b", "c"])] := ⟨_, by cbv, by cbv⟩
  obtain ⟨ts, hscan, hkept⟩ := bodies_keep_names rfl hg
  exact ⟨g, ts, hg, hscan, hrules, fun r hr => ⟨(hkept r hr).1, (hkept r hr).2.1⟩⟩

end Environment

end GrammarForge
