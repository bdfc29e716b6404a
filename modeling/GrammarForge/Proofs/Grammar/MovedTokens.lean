import GrammarForge.Proofs.Grammar.AcceptedFiles
import GrammarForge.Proofs.Grammar.ScannedPieces

/-!
# What derives may be moved

The grammar of grammar files looks at the kinds and the texts of tokens and not at their places. So
tokens of the same kinds and texts derive the same, and the places show in the spans of the rules
only. Files may also be put one after the other, with a semicolon between them.
-/

namespace GrammarForge

/-- The same rule after `k` more bytes. -/
def Rule.shift (k : Nat) (r : Rule) : Rule := { r with span := r.span.shift k }

/-- The same rule wherever it stands. -/
def Rule.withoutSpan (r : Rule) : Rule := { r with span := ⟨0, 0⟩ }

namespace Derived

/-- The same kinds and texts in the same order. -/
def Alike (ts us : List Token) : Prop :=
  ts.map (fun t => (t.kind, t.text)) = us.map fun t => (t.kind, t.text)

theorem Alike.symm {ts us : List Token} (h : Alike ts us) : Alike us ts := Eq.symm h

theorem alike_shift (k : Nat) (ts : List Token) : Alike ts (ts.map (Token.shift k)) := by
  rw [Alike, List.map_map]
  rfl

theorem Alike.eq_nil {us : List Token} (h : Alike [] us) : us = [] :=
  List.map_eq_nil_iff.1 h.symm

theorem Alike.cons_inv {t : Token} {ts us : List Token} (h : Alike (t :: ts) us) :
    ∃ u us', us = u :: us' ∧ u.kind = t.kind ∧ u.text = t.text ∧ Alike ts us' := by
  obtain ⟨u, us', rfl, hu, hus⟩ := List.map_eq_cons_iff.1 h.symm
  obtain ⟨hkind, htext⟩ := Prod.mk.inj hu
  exact ⟨u, us', rfl, hkind, htext, hus.symm⟩

theorem Alike.append_inv {ts₁ ts₂ us : List Token} (h : Alike (ts₁ ++ ts₂) us) :
    ∃ us₁ us₂, us = us₁ ++ us₂ ∧ Alike ts₁ us₁ ∧ Alike ts₂ us₂ := by
  rw [Alike, List.map_append] at h
  obtain ⟨us₁, us₂, rfl, h₁, h₂⟩ := List.map_eq_append_iff.1 h.symm
  exact ⟨us₁, us₂, rfl, h₁.symm, h₂.symm⟩

theorem Alike.single_inv {t : Token} {us : List Token} (h : Alike [t] us) :
    ∃ u, us = [u] ∧ u.kind = t.kind ∧ u.text = t.text := by
  obtain ⟨u, us', rfl, hkind, htext, hus⟩ := h.cons_inv
  exact ⟨u, by rw [hus.eq_nil], hkind, htext⟩

/-- Tokens between two others are alike if all of them are. -/
theorem Alike.enclosed_inv {opening closing : Token} {ts us : List Token}
    (h : Alike (opening :: (ts ++ [closing])) us) :
    ∃ opening' us' closing', us = opening' :: (us' ++ [closing']) ∧
      opening'.kind = opening.kind ∧ Alike ts us' ∧ closing'.kind = closing.kind := by
  obtain ⟨opening', _, rfl, hopening, -, h⟩ := h.cons_inv
  obtain ⟨us', _, rfl, hus, h⟩ := h.append_inv
  obtain ⟨closing', rfl, hclosing, -⟩ := h.single_inv
  exact ⟨opening', us', closing', rfl, hopening, hus, hclosing⟩

mutual

/-- Bodies are read off from kinds and texts. -/
theorem Choice.of_alike {ts us : List Token} {e : Expr} :
    Choice ts e → Alike ts us → Choice us e
  | .single ha, h => .single (ha.of_alike h)
  | .several ha hlen, h => .several (ha.of_alike h) hlen

theorem Alternatives.of_alike {ts us : List Token} {es : List Expr} :
    Alternatives ts es → Alike ts us → Alternatives us es
  | .last hs, h => .last (hs.of_alike h)
  | .next hs hbar ha, h => by
      obtain ⟨us₁, _, rfl, h₁, h⟩ := h.append_inv
      obtain ⟨bar, us₂, rfl, hkind, -, h₂⟩ := h.cons_inv
      exact .next (hs.of_alike h₁) (hkind.trans hbar) (ha.of_alike h₂)

theorem Sequence.of_alike {ts us : List Token} {e : Expr} :
    Sequence ts e → Alike ts us → Sequence us e
  | .single hi, h => .single (hi.of_alike h)
  | .several hi hlen, h => .several (hi.of_alike h) hlen

theorem Items.of_alike {ts us : List Token} {es : List Expr} :
    Items ts es → Alike ts us → Items us es
  | .nil, h => by
      rw [h.eq_nil]
      exact .nil
  | .cons hp hi, h => by
      obtain ⟨us₁, us₂, rfl, h₁, h₂⟩ := h.append_inv
      exact .cons (hp.of_alike h₁) (hi.of_alike h₂)

theorem Postfix.of_alike {ts us : List Token} {e : Expr} :
    Postfix ts e → Alike ts us → Postfix us e
  | .primary hp, h => .primary (hp.of_alike h)
  | .star hp hop, h => by
      obtain ⟨us, _, rfl, hus, h⟩ := h.append_inv
      obtain ⟨op, rfl, hkind, -⟩ := h.single_inv
      exact .star (hp.of_alike hus) (hkind.trans hop)
  | .plus hp hop, h => by
      obtain ⟨us, _, rfl, hus, h⟩ := h.append_inv
      obtain ⟨op, rfl, hkind, -⟩ := h.single_inv
      exact .plus (hp.of_alike hus) (hkind.trans hop)
  | .question hp hop, h => by
      obtain ⟨us, _, rfl, hus, h⟩ := h.append_inv
      obtain ⟨op, rfl, hkind, -⟩ := h.single_inv
      exact .question (hp.of_alike hus) (hkind.trans hop)

theorem Primary.of_alike {ts us : List Token} {e : Expr} :
    Primary ts e → Alike ts us → Primary us e
  | .token ht hname, h => by
      obtain ⟨u, rfl, hkind, htext⟩ := h.single_inv
      rw [← htext] at hname ⊢
      exact .token (hkind.trans ht) hname
  | .reference ht hname, h => by
      obtain ⟨u, rfl, hkind, htext⟩ := h.single_inv
      rw [← htext] at hname ⊢
      exact .reference (hkind.trans ht) hname
  | .literal ht, h => by
      obtain ⟨u, rfl, hkind, htext⟩ := h.single_inv
      rw [← htext]
      exact .literal (hkind.trans ht)
  | .parens ho hc hclosing, h => by
      obtain ⟨opening, us, closing, rfl, hopening, hus, hclosing'⟩ := h.enclosed_inv
      exact .parens (hopening.trans ho) (hc.of_alike hus) (hclosing'.trans hclosing)
  | .brackets ho hc hclosing, h => by
      obtain ⟨opening, us, closing, rfl, hopening, hus, hclosing'⟩ := h.enclosed_inv
      exact .brackets (hopening.trans ho) (hc.of_alike hus) (hclosing'.trans hclosing)

end

theorem IsPrivateWord.of_alike {t u : Token} (h : IsPrivateWord t) (hkind : u.kind = t.kind)
    (htext : u.text = t.text) : IsPrivateWord u := ⟨hkind.trans h.1, htext.trans h.2⟩

theorem Definition.of_alike {core us : List Token} {name : String} {e : Expr}
    (hdef : Definition core name e) (h : Alike core us) : Definition us name e := by
  cases hdef with
  | mk hname hdefine hbody =>
      obtain ⟨name', _, rfl, hkind, htext, h⟩ := h.cons_inv
      obtain ⟨define', body, rfl, hkind', -, h⟩ := h.cons_inv
      rw [← htext]
      exact .mk (hkind.trans hname) (hkind'.trans hdefine) (hbody.of_alike h)

theorem Separator.of_alike {ts us : List Token} (hstop : Separator ts) (h : Alike ts us) :
    Separator us := by
  cases hstop with
  | absent =>
      rw [h.eq_nil]
      exact .absent
  | present ht =>
      obtain ⟨u, rfl, hkind, -⟩ := h.single_inv
      exact .present (hkind.trans ht)

/-- A rule is the tokens of its span and a semicolon, or none. Tokens like these, with a semicolon
or none, are the same rule with their own span. -/
theorem RuleText.core {ts : List Token} {r : Rule} (h : RuleText ts r) :
    ∃ core stop, ts = core ++ stop ∧ core ≠ [] ∧ Separator stop ∧ r.span = spanOf core ∧
      ∀ core' stop', Alike core core' → Separator stop' →
        RuleText (core' ++ stop') { r with span := spanOf core' } := by
  cases h with
  | @plain core stop _ _ hdef hstop =>
      exact ⟨core, stop, rfl, hdef.ne_nil, hstop, rfl,
        fun _ _ hcore hstop' => .plain (hdef.of_alike hcore) hstop'⟩
  | @modified word core stop _ _ hword hdef hstop =>
      refine ⟨word :: core, stop, rfl, by simp, hstop, rfl, fun _ stop' hcore hstop' => ?_⟩
      obtain ⟨word', core', rfl, hkind, htext, hcore⟩ := hcore.cons_inv
      exact .modified (hword.of_alike hkind htext) (hdef.of_alike hcore) hstop'

theorem lastStop_shift (k stop : Nat) (ts : List Token) :
    lastStop (stop + k) (ts.map (Token.shift k)) = lastStop stop ts + k := by
  induction ts generalizing stop with
  | nil => rfl
  | cons t ts ih => exact ih t.span.stop

theorem spanOf_shift (k : Nat) {ts : List Token} (h : ts ≠ []) :
    spanOf (ts.map (Token.shift k)) = (spanOf ts).shift k := by
  cases ts with
  | nil => exact (h rfl).elim
  | cons t ts => simp [spanOf, Span.shift, Token.shift, ← lastStop_shift]

theorem RuleText.shift {ts : List Token} {r : Rule} (h : RuleText ts r) (k : Nat) :
    RuleText (ts.map (Token.shift k)) (r.shift k) := by
  obtain ⟨core, stop, rfl, hne, hstop, hspan, hmoved⟩ := h.core
  rw [Rule.shift, hspan, ← spanOf_shift k hne, List.map_append]
  exact hmoved _ _ (alike_shift k core) (hstop.of_alike (alike_shift k stop))

theorem Value.of_alike {t u : Token} {text : String} (h : Value t text) (hkind : u.kind = t.kind)
    (htext : u.text = t.text) : Value u text := by
  cases h with
  | literal ht =>
      rw [← htext]
      exact .literal (hkind.trans ht)
  | name ht =>
      rw [← htext]
      exact .name (hkind.trans ht)

theorem Entries.of_alike {ts us : List Token} {pairs : List (String × String)}
    (hentries : Entries ts pairs) (h : Alike ts us) : Entries us pairs := by
  induction hentries generalizing us with
  | nil =>
      rw [h.eq_nil]
      exact .nil
  | separator ht _ ih =>
      obtain ⟨u, us, rfl, hkind, -, hus⟩ := h.cons_inv
      exact .separator (hkind.trans ht) (ih hus)
  | setting hkey hequals hvalue _ ih =>
      obtain ⟨key, _, rfl, hkey', hkeyText, h⟩ := h.cons_inv
      obtain ⟨equals, _, rfl, hequals', -, h⟩ := h.cons_inv
      obtain ⟨value, us, rfl, hvalue', hvalueText, hus⟩ := h.cons_inv
      rw [← hkeyText]
      exact .setting (hkey'.trans hkey) (hequals'.trans hequals)
        (hvalue.of_alike hvalue' hvalueText) (ih hus)

theorem StartsNamed.of_alike {ts us : List Token} (hts : StartsNamed ts) (h : Alike ts us) :
    StartsNamed us := by
  obtain ⟨name, define, rest, rfl, hname, hdefine⟩ := hts
  obtain ⟨name', _, rfl, hkind, -, h⟩ := h.cons_inv
  obtain ⟨define', rest', rfl, hkind', -, -⟩ := h.cons_inv
  exact ⟨name', define', rest', rfl, hkind.trans hname, hkind'.trans hdefine⟩

theorem LeavesModifier.of_alike {ts ts' us us' : List Token} (hleaves : LeavesModifier ts us)
    (hts : Alike ts ts') (hus : Alike us us') : LeavesModifier ts' us' := by
  intro hnamed t' ht' hword
  obtain ⟨vs, rfl⟩ := List.getLast?_eq_some_iff.1 ht'
  obtain ⟨vs', _, rfl, -, hlast⟩ := hts.symm.append_inv
  obtain ⟨t, rfl, hkind, htext⟩ := hlast.single_inv
  exact hleaves (hnamed.of_alike hus.symm) t (by simp) (hword.of_alike hkind htext)

/-- Tokens like those of a file are a file, with the same rules but for their spans. -/
theorem File.of_alike {ts us : List Token} {pairs : List (String × String)} {rules : List Rule}
    (hfile : File LeavesModifier ts pairs rules) (h : Alike ts us) :
    ∃ rules', File LeavesModifier us pairs rules' ∧
      rules'.map Rule.withoutSpan = rules.map Rule.withoutSpan := by
  induction hfile generalizing us with
  | nil =>
      rw [h.eq_nil]
      exact ⟨[], .nil, rfl⟩
  | block hopening hentries hclosing _ ih =>
      obtain ⟨opening', _, rfl, hopening', -, h⟩ := h.cons_inv
      obtain ⟨ts', _, rfl, hts, h⟩ := h.append_inv
      obtain ⟨closing', us, rfl, hclosing', -, hus⟩ := h.cons_inv
      obtain ⟨rules', hrules, hsame⟩ := ih hus
      exact ⟨rules', .block (hopening'.trans hopening) (hentries.of_alike hts)
        (hclosing'.trans hclosing) hrules, hsame⟩
  | separator ht _ ih =>
      obtain ⟨t', us, rfl, hkind, -, hus⟩ := h.cons_inv
      obtain ⟨rules', hrules, hsame⟩ := ih hus
      exact ⟨rules', .separator (hkind.trans ht) hrules, hsame⟩
  | rule hrule hleaves _ ih =>
      obtain ⟨ts', us', rfl, hts, hus⟩ := h.append_inv
      obtain ⟨core, stop, rfl, -, hstop, -, hmoved⟩ := hrule.core
      obtain ⟨core', stop', rfl, hcore, hstop'⟩ := hts.append_inv
      obtain ⟨rules', hrules, hsame⟩ := ih hus
      refine ⟨_ :: rules', .rule (hmoved core' stop' hcore (hstop.of_alike hstop'))
        (hleaves.of_alike hts hus) hrules, ?_⟩
      rw [List.map_cons, List.map_cons, hsame]
      rfl

/-- A file further on in a text. -/
theorem File.shift {ts : List Token} {pairs : List (String × String)} {rules : List Rule}
    (h : File LeavesModifier ts pairs rules) (k : Nat) :
    File LeavesModifier (ts.map (Token.shift k)) pairs (rules.map (Rule.shift k)) := by
  induction h with
  | nil => exact .nil
  | @block opening closing ts us _ _ _ hopening hentries hclosing _ ih =>
      have hopening' : (opening.shift k).kind = .leftBrace := hopening
      have hclosing' : (closing.shift k).kind = .rightBrace := hclosing
      have hfile := File.block hopening' (hentries.of_alike (alike_shift k ts)) hclosing' ih
      simpa using hfile
  | separator ht _ ih => exact .separator ht ih
  | rule hrule hleaves _ ih =>
      rw [List.map_append]
      exact .rule (hrule.shift k) (hleaves.of_alike (alike_shift k _) (alike_shift k _)) ih

/-- Where a semicolon comes, no rule starts. -/
theorem StartsNamed.of_semicolon {us vs : List Token} {semicolon : Token}
    (hs : semicolon.kind = .semicolon) (h : StartsNamed (us ++ semicolon :: vs)) :
    StartsNamed us := by
  obtain ⟨name, define, rest, heq, hname, hdefine⟩ := h
  match us, heq with
  | [], heq =>
      cases heq
      simp [hs] at hname
  | [_], heq =>
      cases heq
      simp [hs] at hdefine
  | _ :: _ :: us, heq =>
      cases heq
      exact ⟨name, define, us, rfl, hname, hdefine⟩

/-- Two files with a semicolon between them are a file. -/
theorem File.append {ts us : List Token} {semicolon : Token} {pairs more : List (String × String)}
    {rules others : List Rule} (h : File LeavesModifier ts pairs rules)
    (hs : semicolon.kind = .semicolon) (h' : File LeavesModifier us more others) :
    File LeavesModifier (ts ++ semicolon :: us) (pairs ++ more) (rules ++ others) := by
  induction h with
  | nil => exact .separator hs h'
  | block hopening hentries hclosing _ ih =>
      have hfile := File.block hopening hentries hclosing ih
      simpa using hfile
  | separator ht _ ih => exact .separator ht ih
  | rule hrule hleaves _ ih =>
      rw [List.append_assoc]
      exact .rule hrule (fun hnamed => hleaves (hnamed.of_semicolon hs)) ih

end Derived

end GrammarForge
