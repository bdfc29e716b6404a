import GrammarForge.Proofs.Grammar.BalancedBraces
import GrammarForge.Proofs.Grammar.Faults
import Mathlib

/-!
# What a text lacks at its end

The groups that the reader of a body has open are those whose braces the check still has on its
stack. So once the braces match, the tokens are not over while a group or an attribute block is
open, and a text can be over too early in one way only: its last rule is a name without a `::=`.
-/

namespace GrammarForge

namespace GrammarError

/-- What stands where a syntax error is, as its message names it. -/
def found? : GrammarError → Option String
  | .unexpectedToken found _ => some found.describe
  | .unexpectedEnd _ _ => some "end of file"
  | _ => none

/-- What a syntax error says should stand there. -/
def expected? : GrammarError → Option String
  | .unexpectedToken _ expected => some expected.describe
  | .unexpectedEnd _ expected => some expected.describe
  | _ => none

theorem message_of_found {e : GrammarError} {found expected : String}
    (hfound : e.found? = some found) (hexpected : e.expected? = some expected) :
    e.message = s!"unexpected {found}, expected {expected}" := by
  cases e <;> cases hfound <;> cases hexpected <;> rfl

/-- The error is that the text is over. -/
def IsAtEnd (e : GrammarError) : Prop := ∃ length expected, e = .unexpectedEnd length expected

@[simp] theorem isAtEnd_unexpectedEnd (length : Nat) (expected : Expected) :
    (unexpectedEnd length expected).IsAtEnd := ⟨length, expected, rfl⟩

@[simp] theorem not_isAtEnd_unexpectedToken (t : Token) (expected : Expected) :
    ¬ (unexpectedToken t expected).IsAtEnd := by simp [IsAtEnd]

end GrammarError

/-- No token is described as the end of the file is. -/
theorem Token.describe_ne_end (t : Token) : t.describe ≠ "end of file" := by
  intro h
  have hhead : t.describe.toList.head? = some 'e' := by rw [h]; rfl
  unfold describe at hhead
  split at hhead <;> simp +decide at hhead

theorem GrammarError.isAtEnd_of_found {e : GrammarError} (h : e.found? = some "end of file") :
    e.IsAtEnd := by
  cases e with
  | unexpectedEnd length expected => exact isAtEnd_unexpectedEnd length expected
  | unexpectedToken t expected => exact absurd (Option.some.inj h) t.describe_ne_end
  | _ => cases h

/-! ## Readers of tokens whose braces match -/

/-- The tokens end in a name, and the error is that they do not go on with `::=`. -/
inductive LacksDefine (length : Nat) : List Token → GrammarError → Prop
  | of_name (front : List Token) {t : Token} : t.kind = .ident →
      LacksDefine length (front ++ [t]) (.unexpectedEnd length .define)

theorem LacksDefine.of_suffix {length : Nat} {ts us : List Token} {e : GrammarError}
    (h : LacksDefine length us e) (hus : us <:+ ts) : LacksDefine length ts e := by
  obtain ⟨more, rfl⟩ := hus
  cases h with
  | of_name front ht =>
      rw [← List.append_assoc]
      exact .of_name (more ++ front) ht

/-- A reader leaves tokens whose braces match, and fails at the end of the text only with an error
that `atEnd` allows. -/
def KeepsMatch {α : Type} (atEnd : GrammarError → Prop) (rest : α → List Token) :
    Except GrammarError α → Prop
  | .ok a => BraceMatcher.standard.check (rest a) = .ok ()
  | .error e => e.IsAtEnd → atEnd e

/-- A reader that never fails at the end of the text. -/
abbrev StopsBeforeEnd {α : Type} (rest : α → List Token) : Except GrammarError α → Prop :=
  KeepsMatch (fun _ => False) rest

section

variable {α β : Type} {atEnd : GrammarError → Prop} {rest : α → List Token}
  {x : Except GrammarError α}

theorem keepsMatch_unexpectedToken (t : Token) (expected : Expected) :
    KeepsMatch atEnd rest (.error (.unexpectedToken t expected)) :=
  fun h => absurd h (GrammarError.not_isAtEnd_unexpectedToken t expected)

theorem KeepsMatch.mono {atEnd' : GrammarError → Prop} (h : KeepsMatch atEnd rest x)
    (himp : ∀ e, atEnd e → atEnd' e) : KeepsMatch atEnd' rest x := by
  cases x with
  | ok a => exact h
  | error e => exact fun hend => himp e (h hend)

theorem KeepsMatch.map {rest' : β → List Token} {f : α → β} (h : KeepsMatch atEnd rest x)
    (hf : ∀ a, rest' (f a) = rest a) : KeepsMatch atEnd rest' (x.map f) := by
  cases x with
  | error e => exact h
  | ok a =>
      change BraceMatcher.standard.check (rest' (f a)) = .ok ()
      rw [hf]
      exact h

end

/-! ## Bodies -/

namespace Body

open BraceMatcher

/-- The open groups are those that the braces on the stack have opened. -/
def Opened (outer : Outer) (stack : List (Char × Span)) : Prop :=
  List.Forall₂ (fun group brace => group.1.openingKind.brace? = some brace.1) outer stack

theorem checkFrom_group_opening (group : Group) {t : Token} (ht : t.kind = group.openingKind)
    (stack : List (Char × Span)) (rest : List Token) :
    ∃ c, group.openingKind.brace? = some c ∧
      standard.checkFrom stack (t :: rest) = standard.checkFrom ((c, t.span) :: stack) rest := by
  cases group with
  | paren => exact ⟨'(', rfl, checkFrom_opening (by rw [ht]; rfl) rfl stack rest⟩
  | bracket => exact ⟨'[', rfl, checkFrom_opening (by rw [ht]; rfl) rfl stack rest⟩

theorem checkFrom_group_closing {group : Group} {t : Token} {brace : Char × Span}
    (hbrace : group.openingKind.brace? = some brace.1) (ht : t.kind = group.closingKind)
    (stack : List (Char × Span)) (rest : List Token) :
    standard.checkFrom (brace :: stack) (t :: rest) = standard.checkFrom stack rest := by
  obtain ⟨c, span⟩ := brace
  cases group with
  | paren | bracket =>
      cases hbrace
      exact checkFrom_closing (by rw [ht]; rfl) rfl rfl span stack rest

theorem no_brace_of_repetition {kind : TokenKind} {op : Expr → Expr}
    (h : repetition? kind = some op) : kind.brace? = none := by
  cases kind <;> first | rfl | cases h

/-- The tokens are not over as long as a group is open, so that reading a body ends at a token or
with the body complete. -/
theorem read_stopsBeforeEnd (length stop : Nat) {outer : Outer} (level : Level) {ts : List Token}
    {stack : List (Char × Span)} (hopened : Opened outer stack)
    (hcheck : standard.checkFrom stack ts = .ok ()) :
    StopsBeforeEnd Result.rest (read length stop outer level ts) := by
  fun_induction read length stop outer level ts generalizing stack with
  | case1 =>
      cases hopened with
      | nil => exact hcheck
      | cons => cases hcheck
  | case2 =>
      cases hopened with
      | nil => exact hcheck
      | cons => exact keepsMatch_unexpectedToken _ _
  | case3 _ _ _ t rest _ hkind ih | case4 _ _ _ t rest _ hkind ih | case7 _ _ _ t rest _ hkind ih =>
      rw [checkFrom_of_no_brace (by rw [hkind]; rfl)] at hcheck
      exact ih hopened hcheck
  | case5 _ _ _ t rest _ hkind ih =>
      obtain ⟨c, hc, hopening⟩ := checkFrom_group_opening .paren hkind stack rest
      exact ih (.cons hc hopened) (hopening ▸ hcheck)
  | case6 _ _ _ t rest _ hkind ih =>
      obtain ⟨c, hc, hopening⟩ := checkFrom_group_opening .bracket hkind stack rest
      exact ih (.cons hc hopened) (hopening ▸ hcheck)
  | case8 _ _ _ t rest _ op e items _ _ _ _ _ _ hop ih =>
      rw [checkFrom_of_no_brace (no_brace_of_repetition hop)] at hcheck
      exact ih hopened hcheck
  | case9 _ _ t rest _ group _ _ _ _ _ _ _ hkind _ ih =>
      cases hopened with
      | cons hbrace hopened =>
          rw [checkFrom_group_closing hbrace hkind] at hcheck
          exact ih hopened hcheck
  | case10 => exact keepsMatch_unexpectedToken _ _
  | case11 =>
      cases hopened
      exact hcheck

end Body

/-! ## Attribute blocks -/

namespace GrammarFile

open BraceMatcher Derived

theorem not_isAtEnd_of_attributeValue {v : Token} {e : GrammarError}
    (h : attributeValue v = .error e) : ¬ e.IsAtEnd := by
  unfold attributeValue at h
  split at h <;> cases h
  exact GrammarError.not_isAtEnd_unexpectedToken v .attributeValue

/-- The tokens are not over as long as an attribute block is open. -/
theorem readAttributes_stopsBeforeEnd (length : Nat) {span : Span} {ts : List Token}
    (hcheck : standard.checkFrom [('\x7b', span)] ts = .ok ()) :
    StopsBeforeEnd Prod.snd (readAttributes length ts) := by
  -- What is not a brace leaves the one of the block open, and then the check does not end either.
  have hopen {t : Token} {more : List Token} (ht : t.kind.brace? = none)
      (h : standard.checkFrom [('\x7b', span)] (t :: more) = .ok ()) :
      standard.checkFrom [('\x7b', span)] more = .ok () := by
    rwa [checkFrom_of_no_brace ht] at h
  fun_induction readAttributes length ts with
  | case1 => cases hcheck
  | case2 t rest hkind =>
      rwa [checkFrom_closing (by rw [hkind]; rfl) rfl rfl] at hcheck
  | case3 t rest hkind ih => exact ih (hopen (by rw [hkind]; rfl) hcheck)
  | case4 t hkind => cases hopen (by rw [hkind]; rfl) hcheck
  | case5 => exact keepsMatch_unexpectedToken _ _
  | case6 t hkey eq heq =>
      have hequals := hopen (by rw [hkey]; rfl) hcheck
      cases hopen (by rw [not_not.1 heq]; rfl) hequals
  | case7 t hkey eq heq v rest e hv => exact not_isAtEnd_of_attributeValue hv
  | case8 t hkey eq heq v rest value hv ih =>
      have hequals := hopen (by rw [hkey]; rfl) hcheck
      have hvalue := hopen (by rw [not_not.1 heq]; rfl) hequals
      exact (ih (hopen (attributeValue_eq_ok.1 hv).no_brace hvalue)).map fun _ => rfl
  | case9 => exact keepsMatch_unexpectedToken _ _

/-! ## Rules and files -/

theorem check_dropSeparator (ts : List Token) :
    standard.check (dropSeparator ts) = standard.check ts := by
  cases ts with
  | nil => rfl
  | cons t rest =>
      rw [dropSeparator]
      split
      · next hkind => exact (checkFrom_of_no_brace (by rw [hkind]; rfl) [] rest).symm
      · rfl

theorem readNamedRule_keepsMatch (factory : AstFactory) (length start : Nat) (isPrivate : Bool)
    {name : Token} {ts : List Token} (hcheck : standard.check (name :: ts) = .ok ()) :
    KeepsMatch (LacksDefine length (name :: ts)) Prod.snd
      (readNamedRule factory length start isPrivate name ts) := by
  by_cases hname : name.kind = .ident
  · rw [check, checkFrom_of_no_brace (by rw [hname]; rfl)] at hcheck
    cases ts with
    | nil =>
        rw [readNamedRule, if_neg (not_not.2 hname)]
        exact fun _ => .of_name [] hname
    | cons d rest =>
        by_cases hdefine : d.kind = .define
        · rw [checkFrom_of_no_brace (by rw [hdefine]; rfl)] at hcheck
          rw [readNamedRule_body length factory start isPrivate hname hdefine]
          have hbody := Body.read_stopsBeforeEnd length d.span.stop .empty .nil hcheck
          cases hread : Body.read length d.span.stop [] .empty rest with
          | error e =>
              rw [hread] at hbody
              exact fun hend => (hbody hend).elim
          | ok body =>
              rw [hread] at hbody
              exact (check_dropSeparator body.rest).trans hbody
        · simp only [readNamedRule, hname, hdefine, ne_eq, not_true_eq_false, not_false_eq_true,
            if_false, if_true]
          exact keepsMatch_unexpectedToken d .define
  · rw [readNamedRule.eq_def, if_pos hname]
    exact keepsMatch_unexpectedToken name .ruleName

theorem readRule_keepsMatch (factory : AstFactory) (length : Nat) {t : Token} {ts : List Token}
    (hw : WordsAreNames (t :: ts)) (hcheck : standard.check (t :: ts) = .ok ()) :
    KeepsMatch (LacksDefine length (t :: ts)) Prod.snd (readRule factory length t ts) := by
  unfold readRule
  split
  · next hmodifier =>
      simp only [isModifier, Bool.and_eq_true, decide_eq_true_eq] at hmodifier
      split
      · next name rest =>
          have hword : t.kind = .ident := hw t (by simp) hmodifier.1
          have hname : standard.check (name :: rest) = .ok () := by
            rwa [check, checkFrom_of_no_brace (by rw [hword]; rfl)] at hcheck
          have hrule := readNamedRule_keepsMatch factory length t.span.start true hname
          exact hrule.mono fun e he => he.of_suffix (List.suffix_cons t (name :: rest))
      · -- A modifier has a name after it.
        simp at hmodifier
  · exact readNamedRule_keepsMatch factory length t.span.start false hcheck

/-- A file whose braces match is over too early only if it ends in the name of a rule. -/
theorem lacksDefine_of_readParts {factory : AstFactory} {length : Nat} {ts : List Token}
    {e : GrammarError} (hw : WordsAreNames ts) (hcheck : standard.check ts = .ok ())
    (h : readParts factory length ts = .error e) (hend : e.IsAtEnd) : LacksDefine length ts e := by
  fun_induction readParts factory length ts with
  | case1 => cases h
  | case2 t rest hkind e' hread =>
      rw [check, checkFrom_opening (by rw [hkind]; rfl) rfl] at hcheck
      have hblock := readAttributes_stopsBeforeEnd length hcheck
      rw [hread] at hblock
      cases h
      exact (hblock hend).elim
  | case3 t rest hkind pairs after hread _ ih =>
      rw [check, checkFrom_opening (by rw [hkind]; rfl) rfl] at hcheck
      have hblock := readAttributes_stopsBeforeEnd length hcheck
      have hsuffix := readAttributes_staysWithin length rest
      rw [hread] at hblock hsuffix
      have hsuffix := hsuffix.trans (List.suffix_cons t rest)
      have hafter := ih (fun u hu => hw u (hsuffix.subset hu)) hblock (eq_error_of_map h)
      exact hafter.of_suffix hsuffix
  | case4 t rest hkind ih =>
      rw [check, checkFrom_of_no_brace (by rw [hkind]; rfl)] at hcheck
      have hrest := ih (fun u hu => hw u (List.mem_cons_of_mem t hu)) hcheck h
      exact hrest.of_suffix (List.suffix_cons t rest)
  | case5 t rest e' hread =>
      have hrule := readRule_keepsMatch factory length hw hcheck
      rw [hread] at hrule
      cases h
      exact hrule hend
  | case6 t rest rule after hread _ _ _ ih =>
      have hrule := readRule_keepsMatch factory length hw hcheck
      have hsuffix := readRule_staysWithin factory length t rest
      rw [hread] at hrule hsuffix
      have hafter := ih (fun u hu => hw u (hsuffix.subset hu)) hrule (eq_error_of_map h)
      exact hafter.of_suffix hsuffix

end GrammarFile

/-! ## Parsing -/

theorem Scan.not_isAtEnd_of_scan {text : String} {e : GrammarError} (h : scan text = .error e) :
    ¬ e.IsAtEnd := by
  obtain ⟨front, c, rest, ts, fault, -, -, -, rfl⟩ := scanFrom_eq_error_iff.1 h
  rintro ⟨length, expected, heq⟩
  cases fault <;> cases heq

theorem BraceMatcher.IsFault.not_isAtEnd {ts : List Token} {e : GrammarError} (h : IsFault ts e) :
    ¬ e.IsAtEnd := by
  rintro ⟨length, expected, rfl⟩
  cases h

namespace Environment

/-- With a matcher the stages follow each other. -/
theorem parseGrammar_of_matcher {env : Environment} {factory : AstFactory} {m : BraceMatcher}
    (hfactory : env.factory? grammarLanguage = some factory)
    (hmatcher : env.matcher? grammarLanguage = some m) (name text : String) :
    env.parseGrammar name text = (Scan.scan text).bind fun tokens =>
      (m.check tokens).bind fun _ =>
        GrammarFile.ofTokens factory name text.utf8ByteSize tokens := by
  simp only [parseGrammar, hfactory, hmatcher]
  rfl

/-- Wrong braces are reported whatever else is wrong with the tokens. -/
theorem parse_of_wrong_braces {env : Environment} {factory : AstFactory} {m : BraceMatcher}
    (hfactory : env.factory? grammarLanguage = some factory)
    (hmatcher : env.matcher? grammarLanguage = some m) (name : String) {text : String}
    {tokens : List Token} {e : GrammarError} (hscan : Scan.scan text = .ok tokens)
    (hcheck : m.check tokens = .error e) :
    ParserDefinition.standard.parse env name text = .failed e := by
  rw [ParserDefinition.standard_parse_eq_failed, parseGrammar_of_matcher hfactory hmatcher, hscan]
  simp only [Except.bind, hcheck]

theorem lacksDefine_of_parse {env : Environment} {factory : AstFactory}
    (hfactory : env.factory? grammarLanguage = some factory)
    (hmatcher : env.matcher? grammarLanguage = some .standard) {name text : String}
    {e : GrammarError} (h : ParserDefinition.standard.parse env name text = .failed e)
    (hend : e.IsAtEnd) :
    ∃ tokens, Scan.scan text = .ok tokens ∧ LacksDefine text.utf8ByteSize tokens e := by
  rw [ParserDefinition.standard_parse_eq_failed, parseGrammar_of_matcher hfactory hmatcher] at h
  cases hscan : Scan.scan text with
  | error e' =>
      rw [hscan] at h
      cases h
      exact absurd hend (Scan.not_isAtEnd_of_scan hscan)
  | ok tokens =>
      rw [hscan] at h
      simp only [Except.bind] at h
      cases hcheck : BraceMatcher.standard.check tokens with
      | error e' =>
          rw [hcheck] at h
          cases h
          exact absurd hend (BraceMatcher.isFault_of_check hcheck).not_isAtEnd
      | ok =>
          rw [hcheck] at h
          have hw := GrammarFile.wordsAreNames_of_scan hscan
          exact ⟨tokens, rfl,
            GrammarFile.lacksDefine_of_readParts hw hcheck (eq_error_of_map h) hend⟩

/-- Where the braces of the grammar language are checked, a fault of the braces is what is reported,
and the only other thing that the end of a text can lack is the `::=` after a name. -/
theorem end_of_file_lacks_define {env : Environment} {factory : AstFactory}
    (hfactory : env.factory? grammarLanguage = some factory)
    (hmatcher : env.matcher? grammarLanguage = some .standard) (name text : String) :
    (∀ tokens e, Scan.scan text = .ok tokens → BraceMatcher.standard.check tokens = .error e →
      ParserDefinition.standard.parse env name text = .failed e) ∧
    ∀ e, ParserDefinition.standard.parse env name text = .failed e →
      e.found? = some "end of file" →
      e.expected? = some "'::='" ∧ e = .unexpectedEnd text.utf8ByteSize .define ∧
        e.message = "unexpected end of file, expected '::='" ∧
        ∃ front t, Scan.scan text = .ok (front ++ [t]) ∧ t.kind = .ident := by
  constructor
  · intro tokens e hscan hcheck
    exact parse_of_wrong_braces hfactory hmatcher name hscan hcheck
  · intro e h hfound
    obtain ⟨tokens, hscan, hlacks⟩ :=
      lacksDefine_of_parse hfactory hmatcher h (GrammarError.isAtEnd_of_found hfound)
    cases hlacks with
    | of_name front ht =>
        have hmessage := GrammarError.message_of_found hfound rfl
        exact ⟨rfl, rfl, hmessage.trans (by decide), front, _, hscan, ht⟩

/-- Behind a complete rule, a second one whose name is all there is. -/
theorem end_of_file_lacks_define_of_private_rule :
    standard.factory? grammarLanguage = some .standard ∧
    standard.matcher? grammarLanguage = some .standard ∧
    ∃ e, ParserDefinition.standard.parse standard "g" "a ::= (b [C]); private root" = .failed e ∧
      e.found? = some "end of file" ∧ e.expected? = some "'::='" := by
  have hparse : ParserDefinition.standard.parse standard "g" "a ::= (b [C]); private root" =
      .failed (.unexpectedEnd 27 .define) := by cbv
  have hlacks := (end_of_file_lacks_define rfl rfl "g" _).2 _ hparse rfl
  exact ⟨rfl, rfl, _, hparse, rfl, hlacks.1⟩

end Environment

end GrammarForge
