import GrammarForge.Proofs.Grammar.BalancedBraces
import GrammarForge.Proofs.Grammar.MovedTokens

/-!
# Spans of rules are exact

The span of a rule runs from its first token to its last, so the text can be cut at both ends. What
is cut out is scanned to the tokens of the rule, and these are the rule and nothing else. The tokens
that the reader looked at behind the rule are not needed to see where it ends.
-/

namespace GrammarForge

namespace Span

/-- Both ends are between characters of the text, or at an end of it. -/
def IsValid (s : Span) (text : String) : Prop :=
  String.Pos.Raw.IsValid text ⟨s.start⟩ ∧ String.Pos.Raw.IsValid text ⟨s.stop⟩

/-- The text from the first byte of the span up to its end. -/
def slice (s : Span) (text : String) : String := String.Pos.Raw.extract text ⟨s.start⟩ ⟨s.stop⟩

theorem shift_injective (k : Nat) {s s' : Span} (h : s.shift k = s'.shift k) : s = s' := by
  cases s
  cases s'
  simpa [shift] using h

theorem isValid_byteLength (front back : List Char) :
    String.Pos.Raw.IsValid (String.ofList (front ++ back)) ⟨byteLength front⟩ := by
  rw [String.Pos.Raw.isValid_iff_exists_append]
  refine ⟨String.ofList front, String.ofList back, String.ofList_append, String.Pos.Raw.ext ?_⟩
  rw [String.byteIdx_rawEndPos, String.utf8ByteSize_ofList, byteLength_eq_utf8Len]

theorem isValid_of_toList {text : String} {front mid back : List Char}
    (h : text.toList = front ++ (mid ++ back)) :
    IsValid ⟨byteLength front, byteLength front + byteLength mid⟩ text := by
  rw [← String.ofList_toList (s := text), h]
  refine ⟨isValid_byteLength front (mid ++ back), ?_⟩
  rw [← byteLength_append, ← List.append_assoc]
  exact isValid_byteLength (front ++ mid) back

theorem slice_of_toList {text : String} {front mid back : List Char}
    (h : text.toList = front ++ (mid ++ back)) :
    slice ⟨byteLength front, byteLength front + byteLength mid⟩ text = String.ofList mid := by
  rw [← String.ofList_toList (s := text), h, ← List.append_assoc, slice, byteLength_eq_utf8Len,
    byteLength_eq_utf8Len]
  exact String.extract_of_valid front mid back

theorem IsValid.stop_le {s : Span} {text : String} (h : s.IsValid text) :
    s.stop ≤ text.utf8ByteSize := h.2.le_rawEndPos

end Span

namespace Derived

theorem exists_lastStop {ts : List Token} (h : ts ≠ []) (stop : Nat) :
    ∃ t ∈ ts, lastStop stop ts = t.span.stop := by
  rcases List.eq_nil_or_concat ts with rfl | ⟨ts, t, rfl⟩
  · exact (h rfl).elim
  · exact ⟨t, by simp, by simp⟩

/-- The span of tokens starts and ends with one of them. -/
theorem exists_spanOf {ts : List Token} (h : ts ≠ []) :
    (∃ t ∈ ts, (spanOf ts).start = t.span.start) ∧ ∃ t ∈ ts, (spanOf ts).stop = t.span.stop := by
  cases ts with
  | nil => exact (h rfl).elim
  | cons t ts => exact ⟨⟨t, by simp, rfl⟩, exists_lastStop h t.span.stop⟩

/-- The tokens of a rule in the file. -/
theorem File.exists_ruleText {fits : List Token → List Token → Prop} {ts : List Token}
    {pairs : List (String × String)} {rules : List Rule} (h : File fits ts pairs rules) :
    ∀ r ∈ rules, ∃ us mid vs, ts = us ++ (mid ++ vs) ∧ RuleText mid r := by
  induction h with
  | nil => simp
  | @block opening closing ts us _ _ _ _ _ _ _ ih =>
      intro r hr
      obtain ⟨us, mid, vs, rfl, hmid⟩ := ih r hr
      exact ⟨opening :: (ts ++ closing :: us), mid, vs, by simp, hmid⟩
  | @separator t _ _ _ _ _ ih =>
      intro r hr
      obtain ⟨us, mid, vs, rfl, hmid⟩ := ih r hr
      exact ⟨t :: us, mid, vs, rfl, hmid⟩
  | @rule ts us _ _ _ hrule _ _ ih =>
      intro r hr
      rcases List.mem_cons.1 hr with rfl | hr
      · exact ⟨[], ts, us, rfl, hrule⟩
      · obtain ⟨us, mid, vs, rfl, hmid⟩ := ih r hr
        exact ⟨ts ++ us, mid, vs, by simp, hmid⟩

/-- The tokens of a rule without the semicolon after it, in the file. -/
theorem File.exists_core {fits : List Token → List Token → Prop} {ts : List Token}
    {pairs : List (String × String)} {rules : List Rule} (h : File fits ts pairs rules) :
    ∀ r ∈ rules, ∃ us core vs, ts = us ++ (core ++ vs) ∧ core ≠ [] ∧ r.span = spanOf core ∧
      ∀ core', Alike core core' → RuleText core' { r with span := spanOf core' } := by
  intro r hr
  obtain ⟨us, mid, vs, rfl, hmid⟩ := h.exists_ruleText r hr
  obtain ⟨core, stop, rfl, hne, -, hspan, hmoved⟩ := hmid.core
  refine ⟨us, core, stop ++ vs, by simp, hne, hspan, fun core' hcore => ?_⟩
  simpa using hmoved core' [] hcore .absent

/-- The rules of a file stand one after the other, as its tokens do. -/
theorem File.spans_ordered {fits : List Token → List Token → Prop} {ts : List Token}
    {pairs : List (String × String)} {rules : List Rule} (h : File fits ts pairs rules)
    (hts : ts.Pairwise fun t u => t.span.stop ≤ u.span.start) :
    rules.Pairwise fun r q => r.span.stop ≤ q.span.start := by
  induction h with
  | nil => exact .nil
  | block _ _ _ _ ih => exact ih (List.pairwise_append.1 (List.pairwise_cons.1 hts).2).2.1.tail
  | separator _ _ ih => exact ih hts.tail
  | rule hrule _ hfile ih =>
      obtain ⟨-, hus, hacross⟩ := List.pairwise_append.1 hts
      refine .cons (fun q hq => ?_) (ih hus)
      obtain ⟨core, stop, rfl, hne, -, hspan, -⟩ := hrule.core
      obtain ⟨us, core', vs, rfl, hne', hspan', -⟩ := hfile.exists_core q hq
      obtain ⟨-, last, hlast, hstop⟩ := exists_spanOf hne
      obtain ⟨⟨first, hfirst, hstart⟩, -⟩ := exists_spanOf hne'
      rw [hspan, hspan', hstop, hstart]
      exact hacross last (by simp [hlast]) first (by simp [hfirst])

/-- Tokens that are a rule by themselves are a file. -/
theorem RuleText.file {ts : List Token} {r : Rule} (h : RuleText ts r) :
    File LeavesModifier ts [] [r] := by
  have hend : LeavesModifier ts [] := by
    rintro ⟨_, _, _, hnil, -⟩
    cases hnil
  have hfile := File.rule h hend .nil
  rwa [List.append_nil] at hfile

end Derived

namespace Scan

open Derived

/-- Tokens that follow each other can be cut out of a text, and are scanned by themselves. -/
theorem scan_slice {text : String} {us core vs : List Token}
    (h : scan text = .ok (us ++ (core ++ vs))) (hne : core ≠ []) :
    (spanOf core).start < (spanOf core).stop ∧ (spanOf core).IsValid text ∧
      ∃ core', scan ((spanOf core).slice text) = .ok core' ∧ Alike core core' ∧
        spanOf core' = ⟨0, ((spanOf core).slice text).utf8ByteSize⟩ := by
  obtain ⟨t, rest, rfl⟩ := List.exists_cons_of_ne_nil hne
  rw [scan_iff] at h
  obtain ⟨front, cs, htext, -, hcs, hstart⟩ := h.cut_before
  have hsplit : Scans [] (0 + byteLength front) cs (t :: rest ++ vs) := hcs
  obtain ⟨mid, back, rfl, hmid, -, hstop⟩ := hsplit.cut_after
  have hspan : spanOf (t :: rest) = ⟨byteLength front, byteLength front + byteLength mid⟩ := by
    rw [Nat.zero_add] at hstart hstop
    rw [spanOf, hstart, ← hstop, lastStop_cons]
  obtain ⟨core', hcore', hscans⟩ := (hmid.replace endsLine_nil).unshift
  have hne' : core' ≠ [] := by
    rintro rfl
    cases hcore'
  have hspan' : spanOf core' = ⟨0, byteLength mid⟩ := by
    apply Span.shift_injective (byteLength front)
    rw [← spanOf_shift _ hne', ← hcore', hspan, Span.shift, Nat.zero_add, Nat.add_comm]
  rw [hspan, Span.slice_of_toList htext]
  refine ⟨Nat.lt_add_of_pos_right hmid.byteLength_pos, Span.isValid_of_toList htext, core', ?_, ?_,
    ?_⟩
  · rwa [scan_iff, String.toList_ofList]
  · rw [hcore']
    exact (alike_shift _ core').symm
  · rw [hspan', ← byteLength_toList, String.toList_ofList]

end Scan

namespace Environment

open Derived

variable {env : Environment}

/-- The spans of the rules stand one after the other in the text and are not empty. What is cut out
at the span of a rule is parsed to this rule alone. -/
theorem spans_cut_out_rules (hfactory : env.factory? grammarLanguage = some .standard)
    (hmatcher : env.matcher? grammarLanguage = some .standard) {name text : String} {g : Grammar}
    (h : ParserDefinition.standard.parse env name text = .grammar g) (name' : String) :
    (g.rules.Pairwise fun r q => r.span.stop ≤ q.span.start) ∧
      ∀ r ∈ g.rules, r.span.start < r.span.stop ∧ r.span.stop ≤ text.utf8ByteSize ∧
        r.span.IsValid text ∧
        ∃ g', ParserDefinition.standard.parse env name' (r.span.slice text) = .grammar g' ∧
          g'.rules = [{ r with span := ⟨0, (r.span.slice text).utf8ByteSize⟩ }] := by
  obtain ⟨tokens, pairs, hscan, hfile, -⟩ := file_of_parse hfactory h
  refine ⟨hfile.spans_ordered ((Scan.scan_iff _ _).1 hscan).ordered.1, fun r hr => ?_⟩
  obtain ⟨us, core, vs, rfl, hne, hspan, hmoved⟩ := hfile.exists_core r hr
  obtain ⟨hlt, hvalid, core', hscan', halike, hspan'⟩ := Scan.scan_slice hscan hne
  rw [hspan, ← hspan']
  exact ⟨hlt, hvalid.stop_le, hvalid, _,
    parse_of_file hfactory hmatcher name' hscan' (hmoved core' halike).file, rfl⟩

/-- The first rule is empty and private, and without a semicolon. The second has a character of two
bytes in it. -/
theorem spans_cut_out_adjacent_rules : ∃ g,
    ParserDefinition.standard.parse standard "g" "private a::=b::='é' c;//d" = .grammar g ∧
      g.rules.map (fun r => (r.name, r.span)) = [("a", ⟨0, 12⟩), ("b", ⟨12, 22⟩)] ∧
      ∀ r ∈ g.rules, ∃ g',
        ParserDefinition.standard.parse standard "h"
          (r.span.slice "private a::=b::='é' c;//d") = .grammar g' ∧
        g'.rules.map (·.name) = [r.name] := by
  obtain ⟨g, hg, hrules⟩ : ∃ g,
      ParserDefinition.standard.parse standard "g" "private a::=b::='é' c;//d" = .grammar g ∧
        g.rules.map (fun r => (r.name, r.span)) = [("a", ⟨0, 12⟩), ("b", ⟨12, 22⟩)] :=
    ⟨_, by cbv, by cbv⟩
  refine ⟨g, hg, hrules, fun r hr => ?_⟩
  obtain ⟨-, -, -, g', hg', hrule⟩ := (spans_cut_out_rules rfl rfl hg "h").2 r hr
  exact ⟨g', hg', by rw [hrule]; rfl⟩

end Environment

end GrammarForge
