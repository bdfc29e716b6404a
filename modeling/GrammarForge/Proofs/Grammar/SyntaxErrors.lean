import GrammarForge.Proofs.Grammar.Faults

/-!
# What messages about grammars show

A message about the text of a grammar shows a character or a token at most. Of all these only a
literal can go over the end of a line, where a backslash stands in front of the line feed. So the
message has one line unless it shows such a literal.
-/

namespace GrammarForge

/-- No line ends in the text. -/
def OneLine (s : String) : Prop := '\n' ∉ s.toList

instance (s : String) : Decidable (OneLine s) := inferInstanceAs (Decidable ('\n' ∉ s.toList))

@[simp] theorem oneLine_append (s t : String) : OneLine (s ++ t) ↔ OneLine s ∧ OneLine t := by
  simp [OneLine]

@[simp] theorem oneLine_toString (s : String) : OneLine (toString s) ↔ OneLine s := .rfl

@[simp] theorem oneLine_toString_char (c : Char) : OneLine (toString c) ↔ c ≠ '\n' := by
  change '\n' ∉ (String.singleton c).toList ↔ _
  simp [eq_comm]

theorem IsWord.oneLine {s : String} (h : IsWord s.toList) : OneLine s := by
  intro hmem
  exact absurd (h.all _ hmem) (by decide)

namespace GrammarError

/-- Whether the error is about a literal that goes over the end of a line. -/
def showsLineFeed : GrammarError → Bool
  | .unexpectedToken found _ => found.kind = .quoted && found.text.toList.contains '\n'
  | _ => false

/-- The message has one line unless it shows a literal that has more. -/
def IsPlain (e : GrammarError) : Prop := OneLine e.message ↔ e.showsLineFeed = false

theorem isPlain_of_oneLine {e : GrammarError} (hmessage : OneLine e.message)
    (hshows : e.showsLineFeed = false) : e.IsPlain := ⟨fun _ => hshows, fun _ => hmessage⟩

theorem isPlain_unexpectedEnd {expected : Expected} (h : OneLine expected.describe)
    (length : Nat) : (unexpectedEnd length expected).IsPlain := by
  apply isPlain_of_oneLine _ rfl
  unfold message
  simp +decide [h]

end GrammarError

/-- Only literals go over the end of a line. -/
theorem Token.WellSpelled.oneLine {t : Token} (h : t.WellSpelled) (hkind : t.kind ≠ .quoted) :
    OneLine t.text := by
  unfold WellSpelled TokenKind.Spells at h
  split at h
  · exact IsWord.oneLine h
  · exact absurd ‹_› hkind
  · rw [OneLine, h]
    decide
  · obtain ⟨c, hchars, hc⟩ := h
    rw [OneLine, hchars, List.mem_singleton]
    rintro rfl
    cases hc

theorem Token.oneLine_describe (t : Token) : OneLine t.describe ↔ OneLine t.text := by
  unfold describe
  split <;> simp +decide

namespace GrammarError

theorem isPlain_unexpectedToken {t : Token} {expected : Expected} (ht : t.WellSpelled)
    (h : OneLine expected.describe) : (unexpectedToken t expected).IsPlain := by
  have hmessage : OneLine (unexpectedToken t expected).message ↔ OneLine t.text := by
    unfold message
    simp +decide [h, Token.oneLine_describe]
  rw [IsPlain, hmessage]
  by_cases hkind : t.kind = .quoted
  · simp [showsLineFeed, hkind, OneLine]
  · simp [showsLineFeed, hkind, ht.oneLine hkind]

end GrammarError

open GrammarError

namespace Scan

theorem Fault.IsAt.isPlain {fault : Fault} {chars : List Char} (h : fault.IsAt chars) (pos : Nat) :
    (fault.toError pos).IsPlain := by
  cases fault with
  | unexpectedChar found =>
      have hfound : found ≠ '\n' := by
        rintro rfl
        exact absurd h.2 (by decide)
      apply isPlain_of_oneLine _ rfl
      unfold toError message
      simp +decide [hfound]
  | unterminatedString =>
      have hmessage : OneLine "unterminated string literal" := by decide
      exact isPlain_of_oneLine hmessage rfl
  | unterminatedComment =>
      have hmessage : OneLine "unterminated block comment" := by decide
      exact isPlain_of_oneLine hmessage rfl

theorem isPlain_of_scanFrom {pos : Nat} {cs : List Char} {e : GrammarError}
    (h : scanFrom pos cs = .error e) : e.IsPlain := by
  obtain ⟨front, c, rest, ts, fault, -, -, hpiece, rfl⟩ := scanFrom_eq_error_iff.1 h
  obtain ⟨more, back, -, hat, -⟩ := nextPiece_eq_error hpiece
  exact hat.isPlain _

end Scan

theorem TokenKind.ne_newline_of_brace {kind : TokenKind} {c : Char} (h : kind.brace? = some c) :
    c ≠ '\n' := by
  rintro rfl
  cases kind <;> cases h

theorem BraceMatcher.IsFault.isPlain {ts : List Token} {e : GrammarError} (h : IsFault ts e) :
    e.IsPlain := by
  have hbrace {kind : TokenKind} {c : Char} (hc : kind.brace? = some c) : c ≠ '\n' :=
    TokenKind.ne_newline_of_brace hc
  cases h with
  | unclosed _ hc | unmatched _ hc =>
      apply isPlain_of_oneLine _ rfl
      unfold message
      simp +decide [hbrace hc]
  | mismatched _ hc hd =>
      apply isPlain_of_oneLine _ rfl
      unfold message
      simp +decide [hbrace hc, hbrace hd]

theorem Expected.IsAskedFor.oneLine {expected : Expected} (h : expected.IsAskedFor) :
    OneLine expected.describe := by
  cases expected with
  | closing brace =>
      obtain ⟨group, rfl⟩ := h
      cases group <;> decide
  | _ => decide

theorem IsSyntaxFault.isPlain {length : Nat} {ts : List Token} {e : GrammarError}
    (h : IsSyntaxFault length ts e) (hts : ∀ t ∈ ts, t.WellSpelled) : e.IsPlain := by
  cases h with
  | token ht hexpected => exact isPlain_unexpectedToken (hts _ ht) hexpected.oneLine
  | atEnd hexpected => exact isPlain_unexpectedEnd hexpected.oneLine length

namespace Environment

/-- What is wrong with the text of a grammar is said in one line, unless a literal that goes over
the end of a line is shown. -/
theorem isPlain_of_parseGrammar {env : Environment} {name text : String} {e : GrammarError}
    (h : env.parseGrammar name text = .error e) : e.IsPlain := by
  cases hfactory : env.factory? grammarLanguage with
  | none =>
      rw [parseGrammar_of_no_factory hfactory] at h
      cases h
      exact isPlain_of_oneLine (by decide) rfl
  | some factory =>
      cases isTextFault_of_parseGrammar hfactory h with
      | scanning hscan => exact Scan.isPlain_of_scanFrom hscan
      | braces _ hfault => exact hfault.isPlain
      | reading hscan hfault => exact hfault.isPlain (Scan.scanFrom_wellSpelled hscan)

end Environment

end GrammarForge
