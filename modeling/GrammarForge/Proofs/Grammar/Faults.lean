import GrammarForge.Grammar.Environment
import GrammarForge.Proofs.Grammar.NestedBraces
import GrammarForge.Proofs.Grammar.ScannedPieces

/-!
# Where parsing stops

The three stages of parsing stop at different things: scanning at characters that start no piece,
the check of braces at braces, and reading at a token or at the end of the text. For each stage one
lemma says so, and one for all of them says which stage an error is from.
-/

namespace GrammarForge

/-! ## Scanning -/

namespace Scan

/-- The characters at which a fault is found. -/
def Fault.IsAt : Fault → List Char → Prop
  | .unexpectedChar found, chars => chars = [found] ∧ Text.isAsciiBlank found = false
  | .unterminatedString, chars => chars = ['"'] ∨ chars = ['\'']
  | .unterminatedComment, chars => chars = ['/', '*']

/-- What is wrong shows in the characters where the fault is, whatever comes behind them. -/
theorem nextPiece_eq_error {c : Char} {rest : List Char} {fault : Fault}
    (h : nextPiece c rest = .error fault) : ∃ more back, rest = more ++ back ∧
      fault.IsAt (c :: more) ∧ nextPiece c more = .error fault := by
  unfold nextPiece at h
  split at h
  · cases h
  · next hblank =>
      split at h
      · cases h
      · split at h <;> cases h
        exact ⟨['*'], _, rfl, rfl, rfl⟩
      · cases h
      · split at h
        · cases h
        · next hkind =>
            split at h
            · next hquote =>
                have hc : c = '"' ∨ c = '\'' := by simpa using hquote
                split at h <;> cases h
                refine ⟨[], rest, rfl, ?_, ?_⟩
                · exact hc.imp (congrArg (· :: [])) (congrArg (· :: []))
                · rcases hc with rfl | rfl <;> rfl
            · next hquote =>
                split at h
                · cases h
                · next hstart =>
                    cases h
                    have hplain : Text.isAsciiBlank c = false := by simpa using hblank
                    refine ⟨[], rest, rfl, ⟨rfl, hplain⟩, ?_⟩
                    unfold nextPiece
                    simp [hblank, hkind, hquote, hstart]

/-- Scanning stops behind characters that are scanned, where no piece starts. -/
theorem scanFrom_eq_error_iff {pos : Nat} {cs : List Char} {e : GrammarError} :
    scanFrom pos cs = .error e ↔ ∃ front c rest ts fault, cs = front ++ c :: rest ∧
      Scans (c :: rest) pos front ts ∧ nextPiece c rest = .error fault ∧
      e = fault.toError (pos + byteLength front) := by
  constructor
  · intro h
    fun_induction scanFrom pos cs with
    | case1 => cases h
    | case2 pos c rest fault hpiece =>
        cases h
        exact ⟨[], c, rest, [], fault, rfl, .nil, hpiece, rfl⟩
    | case3 pos c rest piece hpiece stop e' hrest ih =>
        cases h
        obtain ⟨front, d, back, ts, fault, hsplit, hfront, hfault, rfl⟩ := ih hrest
        have hfits := fits_of_nextPiece hpiece
        have hpos : pos + byteLength piece.chars + byteLength front =
            pos + byteLength (piece.chars ++ front) := by rw [byteLength_append, Nat.add_assoc]
        rw [hsplit] at hfits
        refine ⟨piece.chars ++ front, d, back, ?_⟩
        rw [← nextPiece_append hpiece, hsplit, ← List.append_assoc, ← hpos]
        cases hkind : piece.kind with
        | none =>
            rw [hkind] at hfits
            exact ⟨ts, fault, rfl, .skip hfits hfront, hfault, rfl⟩
        | some kind =>
            rw [hkind] at hfits
            exact ⟨_, fault, rfl, .token hfits hfront, hfault, rfl⟩
    | case4 => cases h
    | case5 => cases h
  · rintro ⟨front, c, rest, ts, fault, rfl, hfront, hfault, rfl⟩
    have hstop (pos : Nat) : scanFrom pos (c :: rest) = .error (fault.toError pos) := by
      rw [scanFrom]
      split
      · next fault' hfault' => rw [Except.error.inj (hfault.symm.trans hfault')]
      · next hpiece =>
          rw [hfault] at hpiece
          cases hpiece
    -- A piece in front of what fails moves the error by as many bytes as it has.
    have hgo {kind : Option TokenKind} {chars cs : List Char} {pos : Nat}
        (hfits : Fits kind chars (cs ++ c :: rest))
        (hcs : scanFrom (pos + byteLength chars) (cs ++ c :: rest) =
          .error (fault.toError (pos + byteLength chars + byteLength cs))) :
        scanFrom pos (chars ++ cs ++ c :: rest) =
          .error (fault.toError (pos + byteLength (chars ++ cs))) := by
      obtain ⟨d, more, hsplit, hpiece⟩ := nextPiece_of_fits hfits
      rw [List.append_assoc, hsplit, scanFrom_piece hpiece, hcs, byteLength_append, Nat.add_assoc]
      rfl
    induction hfront with
    | nil => exact hstop _
    | skip hfits _ ih => exact hgo hfits ih
    | token hfits _ ih => exact hgo hfits ih

end Scan

/-! ## Checking braces -/

namespace BraceMatcher

/-- An error about braces is about these tokens. -/
inductive IsFault (ts : List Token) : GrammarError → Prop
  | unclosed {t : Token} {c : Char} : t ∈ ts → t.kind.brace? = some c →
      IsFault ts (.unclosedBrace c t.span)
  | unmatched {t : Token} {c : Char} : t ∈ ts → t.kind.brace? = some c →
      IsFault ts (.unmatchedBrace c t.span)
  | mismatched {t u : Token} {c d : Char} : [t, u].Sublist ts → t.kind.brace? = some c →
      u.kind.brace? = some d → IsFault ts (.mismatchedBrace c t.span d u.span)

variable {m : BraceMatcher}

theorem mem_braces {ts : List Token} {b : Brace} (h : b ∈ m.braces ts) :
    ∃ t ∈ ts, t.kind.brace? = some b.1 ∧ t.span = b.2 := by
  obtain ⟨t, ht, hb⟩ := List.mem_filterMap.1 h
  obtain ⟨hkind, -, hspan⟩ := braceOf?_eq_some.1 hb
  exact ⟨t, ht, hkind, hspan⟩

/-- A brace that is open when the check stops is one of those in front. -/
theorem isFault_of_check {ts : List Token} {e : GrammarError} (h : m.check ts = .error e) :
    IsFault ts e := by
  rw [check_eq] at h
  cases hrun : (m.braces ts).foldlM m.advance [] with
  | ok stack =>
      rw [hrun] at h
      cases stack with
      | nil => cases h
      | cons o outer =>
          cases h
          have ho := (Leaves.of_run hrun).mem_of_mem o (List.mem_cons_self ..)
          obtain ⟨t, ht, hkind, hspan⟩ := mem_braces ho
          rw [← hspan]
          exact .unclosed ht hkind
  | error e' =>
      rw [hrun] at h
      cases h
      obtain ⟨front, b, back, stack, hsplit, hfront, hstep⟩ := foldlM_eq_error hrun
      obtain ⟨us, vs, rfl, rfl, hback⟩ := List.filterMap_eq_append_iff.1 hsplit
      have hb : b ∈ m.braces vs := by
        rw [braces, hback]
        exact List.mem_cons_self ..
      obtain ⟨u, hu, hkind, hspan⟩ := mem_braces hb
      rw [← Prod.mk.eta (p := b), ← hspan] at hstep
      rcases advance_eq_error hstep with ⟨-, rfl⟩ | ⟨o, outer, rfl, rfl⟩
      · exact .unmatched (List.mem_append_right _ hu) hkind
      · have ho := (Leaves.of_run hfront).mem_of_mem o (List.mem_cons_self ..)
        obtain ⟨t, ht, hopening, hspan'⟩ := mem_braces ho
        rw [← hspan']
        have hbefore : [t, u].Sublist (us ++ vs) :=
          (List.singleton_sublist.2 ht).append (List.singleton_sublist.2 hu)
        exact .mismatched hbefore hopening hkind

end BraceMatcher

/-! ## Reading -/

/-- The reader asks for it: a closing brace, if it is one, is that of a group. -/
def Expected.IsAskedFor : Expected → Prop
  | .closing brace => ∃ group : Body.Group, brace = group.closing
  | _ => True

/-- A syntax error is at one of the tokens, or at the end of a text of `length` bytes. -/
inductive IsSyntaxFault (length : Nat) (ts : List Token) : GrammarError → Prop
  | token {t : Token} {expected : Expected} : t ∈ ts → expected.IsAskedFor →
      IsSyntaxFault length ts (.unexpectedToken t expected)
  | atEnd {expected : Expected} : expected.IsAskedFor →
      IsSyntaxFault length ts (.unexpectedEnd length expected)

/-- A reader leaves the last of its tokens or fails at one of them. -/
def StaysWithin {α : Type} (length : Nat) (ts : List Token) (rest : α → List Token) :
    Except GrammarError α → Prop
  | .ok a => rest a <:+ ts
  | .error e => IsSyntaxFault length ts e

section

variable {length : Nat} {ts us : List Token} {e : GrammarError}

theorem IsSyntaxFault.of_suffix (h : IsSyntaxFault length us e) (hus : us <:+ ts) :
    IsSyntaxFault length ts e := by
  cases h with
  | token ht hexpected => exact .token (hus.subset ht) hexpected
  | atEnd hexpected => exact .atEnd hexpected

theorem IsSyntaxFault.head {t : Token} {expected : Expected} (h : expected.IsAskedFor) :
    IsSyntaxFault length (t :: ts) (.unexpectedToken t expected) := .token (List.mem_cons_self ..) h

namespace StaysWithin

variable {α β : Type} {rest : α → List Token} {x : Except GrammarError α}

theorem of_suffix (h : StaysWithin length us rest x) (hus : us <:+ ts) :
    StaysWithin length ts rest x := by
  cases x with
  | ok a => exact List.IsSuffix.trans h hus
  | error e => exact IsSyntaxFault.of_suffix h hus

theorem cons (h : StaysWithin length ts rest x) (t : Token) :
    StaysWithin length (t :: ts) rest x := h.of_suffix (List.suffix_cons t ts)

theorem map {rest' : β → List Token} {f : α → β} (h : StaysWithin length ts rest x)
    (hf : ∀ a, rest' (f a) = rest a) : StaysWithin length ts rest' (x.map f) := by
  cases x with
  | error e => exact h
  | ok a =>
      change rest' (f a) <:+ ts
      rw [hf]
      exact h

end StaysWithin

end

/-- What is mapped fails if the result does. -/
theorem eq_error_of_map {ε α β : Type} {x : Except ε α} {f : α → β} {e : ε}
    (h : x.map f = .error e) : x = .error e := by
  cases x with
  | error e' =>
      cases h
      rfl
  | ok a => cases h

theorem Body.finish_staysWithin {length stop : Nat} {outer : Outer} {level : Level}
    {rest : List Token} {missing : Expected → GrammarError}
    (hmissing : ∀ expected, expected.IsAskedFor → IsSyntaxFault length rest (missing expected)) :
    StaysWithin length rest Result.rest (finish stop outer level rest missing) := by
  unfold finish
  split
  · exact List.suffix_refl rest
  · exact hmissing _ ⟨_, rfl⟩

theorem Body.read_staysWithin (length stop : Nat) (outer : Outer) (level : Level)
    (ts : List Token) : StaysWithin length ts Result.rest (read length stop outer level ts) := by
  fun_induction read length stop outer level ts with
  | case1 => exact finish_staysWithin fun _ h => .atEnd h
  | case2 => exact finish_staysWithin fun _ h => .head h
  | case3 _ _ _ _ _ _ _ ih => exact ih.cons _
  | case4 _ _ _ _ _ _ _ ih => exact ih.cons _
  | case5 _ _ _ _ _ _ _ ih => exact ih.cons _
  | case6 _ _ _ _ _ _ _ ih => exact ih.cons _
  | case7 _ _ _ _ _ _ _ ih => exact ih.cons _
  | case8 =>
      rename_i ih
      exact ih.cons _
  | case9 =>
      rename_i ih
      exact ih.cons _
  | case10 => exact .head ⟨_, rfl⟩
  | case11 => exact List.suffix_refl _

namespace GrammarFile

theorem isSyntaxFault_of_attributeValue {length : Nat} {v : Token} {ts : List Token}
    {e : GrammarError} (h : attributeValue v = .error e) : IsSyntaxFault length (v :: ts) e := by
  unfold attributeValue at h
  split at h <;> cases h
  exact .head trivial

theorem readAttributes_staysWithin (length : Nat) (ts : List Token) :
    StaysWithin length ts Prod.snd (readAttributes length ts) := by
  fun_induction readAttributes length ts with
  | case1 => exact .atEnd trivial
  | case2 t rest => exact List.suffix_cons t rest
  | case3 t rest hkind ih => exact ih.cons t
  | case4 => exact .atEnd trivial
  | case5 t hkind eq rest => exact .token (by simp) trivial
  | case6 => exact .atEnd trivial
  | case7 t hkind eq heq v rest e hv =>
      exact (isSyntaxFault_of_attributeValue hv).of_suffix ⟨[t, eq], rfl⟩
  | case8 t hkind eq heq v rest value hv ih =>
      exact (ih.of_suffix ⟨[t, eq, v], rfl⟩).map fun _ => rfl
  | case9 => exact .head trivial

theorem readNamedRule_staysWithin (factory : AstFactory) (length start : Nat) (isPrivate : Bool)
    (name : Token) (ts : List Token) : StaysWithin length (name :: ts) Prod.snd
      (readNamedRule factory length start isPrivate name ts) := by
  unfold readNamedRule
  split
  · exact .head trivial
  · cases ts with
    | nil => exact .atEnd trivial
    | cons d rest =>
        simp only
        split
        · exact .token (by simp) trivial
        · have hrest : rest <:+ name :: d :: rest := ⟨[name, d], rfl⟩
          have hbody := (Body.read_staysWithin length d.span.stop [] .empty rest).of_suffix hrest
          cases hread : Body.read length d.span.stop [] .empty rest with
          | error e =>
              rw [hread] at hbody
              exact hbody
          | ok body =>
              rw [hread] at hbody
              obtain ⟨expr, stop, more⟩ := body
              cases more with
              | nil => exact hbody
              | cons s after =>
                  simp only [bind, Except.bind]
                  split
                  · exact (List.suffix_cons s after).trans hbody
                  · exact hbody

theorem readRule_staysWithin (factory : AstFactory) (length : Nat) (t : Token) (ts : List Token) :
    StaysWithin length (t :: ts) Prod.snd (readRule factory length t ts) := by
  unfold readRule
  split
  · split
    · exact (readNamedRule_staysWithin factory length _ true _ _).cons t
    · exact .atEnd trivial
  · exact readNamedRule_staysWithin factory length _ false t ts

theorem isSyntaxFault_of_readParts {factory : AstFactory} {length : Nat} {ts : List Token}
    {e : GrammarError} (h : readParts factory length ts = .error e) :
    IsSyntaxFault length ts e := by
  fun_induction readParts factory length ts with
  | case1 => cases h
  | case2 t rest hkind e' hread =>
      have hblock := readAttributes_staysWithin length rest
      rw [hread] at hblock
      cases h
      exact hblock.of_suffix (List.suffix_cons t rest)
  | case3 t rest hkind pairs after hread hlength ih =>
      have hblock := readAttributes_staysWithin length rest
      rw [hread] at hblock
      exact (ih (eq_error_of_map h)).of_suffix (hblock.trans (List.suffix_cons t rest))
  | case4 t rest hkind ih => exact (ih h).of_suffix (List.suffix_cons t rest)
  | case5 t rest e' hread =>
      have hrule := readRule_staysWithin factory length t rest
      rw [hread] at hrule
      cases h
      exact hrule
  | case6 t rest rule after hread hlength _ _ ih =>
      have hrule := readRule_staysWithin factory length t rest
      rw [hread] at hrule
      exact (ih (eq_error_of_map h)).of_suffix hrule

end GrammarFile

/-! ## All stages -/

/-- What can be wrong with a text, stage by stage. -/
inductive IsTextFault (text : String) : GrammarError → Prop
  | scanning {e : GrammarError} : Scan.scan text = .error e → IsTextFault text e
  | braces {ts : List Token} {e : GrammarError} : Scan.scan text = .ok ts →
      BraceMatcher.IsFault ts e → IsTextFault text e
  | reading {ts : List Token} {e : GrammarError} : Scan.scan text = .ok ts →
      IsSyntaxFault text.utf8ByteSize ts e → IsTextFault text e

theorem Environment.isTextFault_of_parseGrammar {env : Environment} {factory : AstFactory}
    (hfactory : env.factory? grammarLanguage = some factory) {name text : String}
    {e : GrammarError} (h : env.parseGrammar name text = .error e) : IsTextFault text e := by
  simp only [parseGrammar, hfactory, bind, Except.bind] at h
  cases hscan : Scan.scan text with
  | error e' =>
      rw [hscan] at h
      cases h
      exact .scanning hscan
  | ok ts =>
      rw [hscan] at h
      have hread (hparse : GrammarFile.ofTokens factory name text.utf8ByteSize ts = .error e) :
          IsTextFault text e :=
        .reading hscan (GrammarFile.isSyntaxFault_of_readParts (eq_error_of_map hparse))
      cases hmatcher : env.matcher? grammarLanguage with
      | none =>
          rw [hmatcher] at h
          exact hread h
      | some m =>
          rw [hmatcher] at h
          simp only at h
          split at h
          · next hcheck =>
              cases h
              exact .braces hscan (BraceMatcher.isFault_of_check hcheck)
          · exact hread h

end GrammarForge
