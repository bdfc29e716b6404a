import GrammarForge.Grammar.Environment
import GrammarForge.Proofs.Grammar.AcceptedFiles

/-!
# The form of expressions that are read

A reader never makes a choice or a sequence of one, and every name is a word on its side of
`NamesToken`. Literals are arbitrary.
-/

namespace GrammarForge

namespace Expr

mutual

/-- The texts of the literals of the expression, repeats included. -/
def literals : Expr → List String
  | choice alternatives => literalsOf alternatives
  | sequence items => literalsOf items
  | optional item | zeroOrMore item | oneOrMore item => item.literals
  | literal text => [text]
  | reference _ | token _ => []

def literalsOf : List Expr → List String
  | [] => []
  | e :: rest => e.literals ++ literalsOf rest

end

mutual

/-- What holds of an expression and of all its parts when it has been read. -/
def IsNormal : Expr → Prop
  | choice alternatives => 2 ≤ alternatives.length ∧ AreNormal alternatives
  | sequence items => items.length ≠ 1 ∧ AreNormal items
  | optional item | zeroOrMore item | oneOrMore item => item.IsNormal
  | reference name => IsWord name.toList ∧ ¬ Derived.NamesToken name
  | token name => IsWord name.toList ∧ Derived.NamesToken name
  | literal _ => True

def AreNormal : List Expr → Prop
  | [] => True
  | e :: rest => e.IsNormal ∧ AreNormal rest

end

mutual

/-- The expression and all expressions in it. -/
def parts : Expr → List Expr
  | choice alternatives => choice alternatives :: partsOf alternatives
  | sequence items => sequence items :: partsOf items
  | optional item => optional item :: item.parts
  | zeroOrMore item => zeroOrMore item :: item.parts
  | oneOrMore item => oneOrMore item :: item.parts
  | reference name => [reference name]
  | token name => [token name]
  | literal text => [literal text]

def partsOf : List Expr → List Expr
  | [] => []
  | e :: rest => e.parts ++ partsOf rest

end

mutual

theorem isNormal_of_mem_parts {part : Expr} : (e : Expr) → e.IsNormal → part ∈ e.parts →
    part.IsNormal
  | choice alternatives, h, hpart => by
    cases hpart with
    | head => exact h
    | tail _ hpart => exact isNormal_of_mem_partsOf alternatives h.2 hpart
  | sequence items, h, hpart => by
    cases hpart with
    | head => exact h
    | tail _ hpart => exact isNormal_of_mem_partsOf items h.2 hpart
  | optional item, h, hpart | zeroOrMore item, h, hpart | oneOrMore item, h, hpart => by
    cases hpart with
    | head => exact h
    | tail _ hpart => exact isNormal_of_mem_parts item h hpart
  | reference _, h, hpart | token _, h, hpart | literal _, h, hpart => by
    cases hpart with
    | head => exact h
    | tail _ hpart => cases hpart

theorem isNormal_of_mem_partsOf {part : Expr} : (es : List Expr) → AreNormal es →
    part ∈ partsOf es → part.IsNormal
  | [], _, hpart => by cases hpart
  | e :: rest, h, hpart =>
    (List.mem_append.1 hpart).elim (isNormal_of_mem_parts e h.1)
      (isNormal_of_mem_partsOf rest h.2)

end

mutual

theorem tokens_of_mem_parts {part : Expr} {t : String} : (e : Expr) → part ∈ e.parts →
    t ∈ part.tokens → t ∈ e.tokens
  | choice alternatives, hpart, ht => by
    cases hpart with
    | head => exact ht
    | tail _ hpart => exact tokens_of_mem_partsOf alternatives hpart ht
  | sequence items, hpart, ht => by
    cases hpart with
    | head => exact ht
    | tail _ hpart => exact tokens_of_mem_partsOf items hpart ht
  | optional item, hpart, ht | zeroOrMore item, hpart, ht | oneOrMore item, hpart, ht => by
    cases hpart with
    | head => exact ht
    | tail _ hpart => exact tokens_of_mem_parts item hpart ht
  | reference _, hpart, ht | token _, hpart, ht | literal _, hpart, ht => by
    cases hpart with
    | head => exact ht
    | tail _ hpart => cases hpart

theorem tokens_of_mem_partsOf {part : Expr} {t : String} : (es : List Expr) →
    part ∈ partsOf es → t ∈ part.tokens → t ∈ tokensOf es
  | [], hpart, _ => by cases hpart
  | e :: rest, hpart, ht =>
    (List.mem_append.1 hpart).elim
      (fun hpart => List.mem_append_left _ (tokens_of_mem_parts e hpart ht))
      (fun hpart => List.mem_append_right _ (tokens_of_mem_partsOf rest hpart ht))

end

end Expr

/-- Every token has a text for its kind. -/
def AreWellSpelled (ts : List Token) : Prop := ∀ t ∈ ts, t.WellSpelled

@[simp] theorem areWellSpelled_append (ts us : List Token) :
    AreWellSpelled (ts ++ us) ↔ AreWellSpelled ts ∧ AreWellSpelled us := by
  simp [AreWellSpelled, or_imp, forall_and]

@[simp] theorem areWellSpelled_cons (t : Token) (ts : List Token) :
    AreWellSpelled (t :: ts) ↔ t.WellSpelled ∧ AreWellSpelled ts := by
  simp [AreWellSpelled]

theorem Token.WellSpelled.isWord {t : Token} (h : t.WellSpelled) (ht : t.kind = .ident) :
    IsWord t.text.toList := by
  rwa [WellSpelled, ht] at h

namespace Derived

mutual

/-- What derives from well spelled tokens is normal. -/
theorem Choice.isNormal {ts : List Token} {e : Expr} :
    Choice ts e → AreWellSpelled ts → e.IsNormal
  | .single h, hts => (h.areNormal hts).1
  | .several h hlen, hts => ⟨hlen, h.areNormal hts⟩

theorem Alternatives.areNormal {ts : List Token} {es : List Expr} :
    Alternatives ts es → AreWellSpelled ts → Expr.AreNormal es
  | .last h, hts => ⟨h.isNormal hts, trivial⟩
  | .next hs _ ha, hts => by
      rw [areWellSpelled_append, areWellSpelled_cons] at hts
      exact ⟨hs.isNormal hts.1, ha.areNormal hts.2.2⟩

theorem Sequence.isNormal {ts : List Token} {e : Expr} :
    Sequence ts e → AreWellSpelled ts → e.IsNormal
  | .single h, hts => (h.areNormal hts).1
  | .several h hlen, hts => ⟨hlen, h.areNormal hts⟩

theorem Items.areNormal {ts : List Token} {es : List Expr} :
    Items ts es → AreWellSpelled ts → Expr.AreNormal es
  | .nil, _ => trivial
  | .cons hp hi, hts => by
      rw [areWellSpelled_append] at hts
      exact ⟨hp.isNormal hts.1, hi.areNormal hts.2⟩

theorem Postfix.isNormal {ts : List Token} {e : Expr} :
    Postfix ts e → AreWellSpelled ts → e.IsNormal
  | .primary h, hts => h.isNormal hts
  | .star h _, hts => h.isNormal ((areWellSpelled_append _ _).1 hts).1
  | .plus h _, hts => h.isNormal ((areWellSpelled_append _ _).1 hts).1
  | .question h _, hts => h.isNormal ((areWellSpelled_append _ _).1 hts).1

theorem Primary.isNormal {ts : List Token} {e : Expr} :
    Primary ts e → AreWellSpelled ts → e.IsNormal
  | .token ht hn, hts => ⟨(hts _ (by simp)).isWord ht, hn⟩
  | .reference ht hn, hts => ⟨(hts _ (by simp)).isWord ht, hn⟩
  | .literal _, _ => trivial
  | .parens _ h _, hts => by
      rw [areWellSpelled_cons, areWellSpelled_append] at hts
      exact h.isNormal hts.2.1
  | .brackets _ h _, hts => by
      rw [areWellSpelled_cons, areWellSpelled_append] at hts
      exact h.isNormal hts.2.1

end

theorem Definition.isNormal {core : List Token} {name : String} {e : Expr}
    (h : Definition core name e) (hcore : AreWellSpelled core) :
    IsWord name.toList ∧ e.IsNormal := by
  cases h with
  | mk hname _ hbody =>
      simp only [areWellSpelled_cons] at hcore
      exact ⟨hcore.1.isWord hname, hbody.isNormal hcore.2.2⟩

theorem RuleText.isNormal {ts : List Token} {r : Rule} (h : RuleText ts r)
    (hts : AreWellSpelled ts) : IsWord r.name.toList ∧ r.expr.IsNormal := by
  cases h with
  | plain hdef _ => exact hdef.isNormal ((areWellSpelled_append _ _).1 hts).1
  | modified _ hdef _ =>
      rw [areWellSpelled_cons, areWellSpelled_append] at hts
      exact hdef.isNormal hts.2.1

theorem File.isNormal {fits : List Token → List Token → Prop} {ts : List Token}
    {pairs : List (String × String)} {rules : List Rule} (h : File fits ts pairs rules)
    (hts : AreWellSpelled ts) : ∀ r ∈ rules, IsWord r.name.toList ∧ r.expr.IsNormal := by
  induction h with
  | nil => simp
  | block _ _ _ _ ih =>
      simp only [areWellSpelled_cons, areWellSpelled_append] at hts
      exact ih hts.2.2.2
  | separator _ _ ih =>
      rw [areWellSpelled_cons] at hts
      exact ih hts.2
  | rule hrule _ _ ih =>
      rw [areWellSpelled_append] at hts
      intro r hr
      rcases List.mem_cons.1 hr with rfl | hr
      · exact hrule.isNormal hts.1
      · exact ih hts.2 r hr

end Derived

namespace Environment

theorem parseGrammar_of_no_factory {env : Environment}
    (hfactory : env.factory? grammarLanguage = none) (name text : String) :
    env.parseGrammar name text = .error (.noFactory grammarLanguage) := by
  rw [parseGrammar, hfactory]

/-- A text that is parsed is scanned, its braces match if they are checked, and its tokens are
accepted. -/
theorem parseGrammar_eq_ok {env : Environment} {name text : String} {g : Grammar}
    (hfactory : env.factory? grammarLanguage = some .standard)
    (h : env.parseGrammar name text = .ok g) :
    ∃ tokens, Scan.scan text = .ok tokens ∧
      (∀ m ∈ env.matcher? grammarLanguage, m.check tokens = .ok ()) ∧
      GrammarFile.ofTokens .standard name text.utf8ByteSize tokens = .ok g := by
  simp only [parseGrammar, hfactory, bind, Except.bind] at h
  split at h
  · cases h
  rename_i tokens hscan
  refine ⟨tokens, hscan, ?_⟩
  cases hm : env.matcher? grammarLanguage with
  | none => 
      rw [hm] at h
      exact ⟨by simp, h⟩
  | some m =>
      simp only [hm] at h
      split at h
      · cases h
      · exact ⟨fun m' hm' => Option.mem_some_iff.1 hm' ▸ ‹_›, h⟩

/-- The rules of a grammar that has been parsed are named by words and have normal expressions. -/
theorem isNormal_of_parseGrammar {env : Environment} {name text : String} {g : Grammar}
    (hfactory : env.factory? grammarLanguage = some .standard)
    (h : env.parseGrammar name text = .ok g) :
    ∀ r ∈ g.rules, IsWord r.name.toList ∧ r.expr.IsNormal := by
  obtain ⟨tokens, hscan, -, hg⟩ := parseGrammar_eq_ok hfactory h
  obtain ⟨pairs, hfile, -⟩ :=
    (GrammarFile.ofTokens_eq_ok (GrammarFile.wordsAreNames_of_scan hscan) g).1 hg
  exact hfile.isNormal (Scan.scanFrom_wellSpelled hscan)

end Environment

end GrammarForge
