import GrammarForge.Proofs.Generation.KeptRules
import GrammarForge.Proofs.Grammar.FileReading
import Mathlib

/-!
# Which files are accepted

A token list is accepted if it derives in any way. A derivation in which a rule takes the `private`
that stands in front of the next one is turned around from the end of the file to its start: the
rule does without the word, and the next one gets it as its modifier.
-/

namespace GrammarForge

namespace Attributes

/-- Every key once, where it first appears, with the last value that it is given. -/
def settled (pairs : List (String × String)) : Attributes :=
  (distinct (pairs.map (·.1))).map fun key => (key, (pairs.reverse.lookup key).getD "")

theorem insert_map (key value : String) {keys : List String} (hkeys : keys.Nodup)
    (f : String → String) :
    insert key value (keys.map fun k => (k, f k)) =
      (if key ∈ keys then keys else keys ++ [key]).map
        fun k => (k, if k = key then value else f k) := by
  induction keys with
  | nil => simp [insert]
  | cons k keys ih =>
      rw [List.nodup_cons] at hkeys
      rw [List.map_cons, insert]
      by_cases hk : k = key
      · have hrest : ∀ k' ∈ keys, k' ≠ key := fun k' hk' heq => hkeys.1 (hk.trans heq.symm ▸ hk')
        have hmap : keys.map (fun k => (k, f k)) =
            keys.map fun k => (k, if k = key then value else f k) :=
          List.map_congr_left fun k' hk' => by rw [if_neg (hrest k' hk')]
        rw [if_pos hk, hmap]
        simp [hk]
      · rw [if_neg hk, ih hkeys.2]
        have hmem : key ∈ k :: keys ↔ key ∈ keys := by simp [Ne.symm hk]
        simp only [hmem]
        split <;> simp [hk]

/-- Setting a key that is there replaces its value and leaves its place. -/
theorem ofPairs_eq_settled (pairs : List (String × String)) : ofPairs pairs = settled pairs := by
  induction pairs using List.reverseRecOn with
  | nil => rfl
  | append_singleton pairs pair ih =>
      obtain ⟨key, value⟩ := pair
      have hfold : ofPairs (pairs ++ [(key, value)]) = (ofPairs pairs).insert key value := by
        simp [ofPairs]
      rw [hfold, ih, settled, insert_map key value (nodup_distinct _), settled]
      simp only [List.map_append, List.map_cons, List.map_nil, distinct_concat, mem_distinct,
        List.reverse_append, List.reverse_singleton, List.singleton_append, List.lookup_cons]
      refine List.map_congr_left fun k _ => ?_
      by_cases hk : k = key
      · simp [hk]
      · have hbeq : (k == key) = false := by simpa using hk
        simp [hk, hbeq]

end Attributes

namespace Derived

theorem File.mono {fits fits' : List Token → List Token → Prop}
    (hfits : ∀ ts us, fits ts us → fits' ts us) {ts : List Token} {pairs : List (String × String)}
    {rules : List Rule} (h : File fits ts pairs rules) : File fits' ts pairs rules := by
  induction h with
  | nil => exact .nil
  | block ho hentries hc _ ih => exact .block ho hentries hc ih
  | separator ht _ ih => exact .separator ht ih
  | rule hts hus _ ih => exact .rule hts (hfits _ _ hus) ih

/-- A word at the end of a rule without a semicolon is the end of its body. -/
theorem Definition.drop_word {core stop vs : List Token} {name : String} {e : Expr} {t : Token}
    (h : Definition core name e) (hstop : Separator stop) (heq : core ++ stop = vs ++ [t])
    (ht : t.kind = .ident) : ∃ e', Definition vs name e' := by
  cases hstop with
  | present hs =>
      obtain ⟨-, rfl⟩ := List.append_singleton_inj.1 heq
      simp [hs] at ht
  | absent =>
      cases h with
      | @mk name define body _ hname hdefine hbody =>
          rw [List.append_nil] at heq
          rcases List.eq_nil_or_concat body with rfl | ⟨body, last, rfl⟩
          · have hlast := List.append_singleton_inj.1 (show [name] ++ [define] = vs ++ [t] from heq)
            simp [← hlast.2, hdefine] at ht
          · rw [List.concat_eq_append, ← List.cons_append, ← List.cons_append] at heq
            rw [List.concat_eq_append] at hbody
            obtain ⟨rfl, rfl⟩ := List.append_singleton_inj.1 heq
            obtain ⟨e', hbody'⟩ := hbody.drop_name ht
            exact ⟨e', .mk hname hdefine hbody'⟩

/-- A rule can do without a word at its end. -/
theorem RuleText.drop_word {ts us : List Token} {t : Token} {r : Rule} (h : RuleText ts r)
    (heq : ts = us ++ [t]) (ht : t.kind = .ident) : ∃ r', RuleText us r' := by
  cases h with
  | plain hdef hstop =>
      obtain ⟨e', hdef'⟩ := hdef.drop_word hstop heq ht
      have hrule := RuleText.plain hdef' .absent
      rw [List.append_nil] at hrule
      exact ⟨_, hrule⟩
  | @modified word core stop _ _ hword hdef hstop =>
      cases us with
      | nil =>
          have hcore := (List.append_eq_nil_iff.1 (List.cons.inj heq).2).1
          exact (hdef.ne_nil hcore).elim
      | cons u us =>
          obtain ⟨rfl, hrest⟩ := List.cons.inj heq
          obtain ⟨e', hdef'⟩ := hdef.drop_word hstop hrest ht
          have hrule := RuleText.modified hword hdef' .absent
          rw [List.append_nil] at hrule
          exact ⟨_, hrule⟩

/-- A rule that starts with its name can have a word in front of it as its modifier. -/
theorem RuleText.modify {ts us : List Token} {t : Token} {r : Rule} (h : RuleText ts r)
    (hnamed : StartsNamed (ts ++ us)) (ht : IsPrivateWord t) : ∃ r', RuleText (t :: ts) r' := by
  cases h with
  | plain hdef hstop => exact ⟨_, .modified ht hdef hstop⟩
  | modified _ hdef _ =>
      cases hdef with
      | mk hname _ _ =>
          obtain ⟨n, d, rest, heq, -, hd⟩ := hnamed
          cases heq
          simp [hname] at hd

theorem RuleText.ne_nil {ts : List Token} {r : Rule} (h : RuleText ts r) : ts ≠ [] := by
  cases h with
  | plain hdef _ => simp [hdef.ne_nil]
  | modified => simp

/-- The rule at the start of a file can have a word in front of it as its modifier. -/
theorem File.modify {ts : List Token} {pairs : List (String × String)} {rules : List Rule}
    {t : Token} (h : File LeavesModifier ts pairs rules) (hnamed : StartsNamed ts)
    (ht : IsPrivateWord t) : ∃ rules', File LeavesModifier (t :: ts) pairs rules' := by
  cases h with
  | nil =>
      obtain ⟨_, _, _, heq, -⟩ := hnamed
      cases heq
  | block ho =>
      obtain ⟨n, _, _, heq, hn, -⟩ := hnamed
      obtain ⟨rfl, -⟩ := List.cons.inj heq
      simp [hn] at ho
  | separator hs =>
      obtain ⟨n, _, _, heq, hn, -⟩ := hnamed
      obtain ⟨rfl, -⟩ := List.cons.inj heq
      simp [hn] at hs
  | rule hts hleaves hfile =>
      obtain ⟨r', hr'⟩ := hts.modify hnamed ht
      exact ⟨_, .rule hr' (hleaves.cons hts.ne_nil) hfile⟩

theorem leavesModifier_of_startsNamed (ts : List Token) (t : Token) {us : List Token}
    (hus : StartsNamed us) : LeavesModifier ts (t :: us) := by
  rintro ⟨n, d, rest, heq, -, hd⟩
  obtain ⟨n', d', rest', rfl, hn', -⟩ := hus
  cases heq
  simp [hn'] at hd

/-- Whatever derives has a derivation in which every modifier is where it belongs. -/
theorem File.leavesModifier {fits : List Token → List Token → Prop} {ts : List Token}
    {pairs : List (String × String)} {rules : List Rule} (h : File fits ts pairs rules) :
    ∃ rules', File LeavesModifier ts pairs rules' := by
  induction h with
  | nil => exact ⟨[], .nil⟩
  | block ho hentries hc _ ih =>
      obtain ⟨rules', ih⟩ := ih
      exact ⟨rules', .block ho hentries hc ih⟩
  | separator ht _ ih =>
      obtain ⟨rules', ih⟩ := ih
      exact ⟨rules', .separator ht ih⟩
  | @rule ts us _ _ _ hts _ _ ih =>
      obtain ⟨rules', ih⟩ := ih
      by_cases hleaves : LeavesModifier ts us
      · exact ⟨_, .rule hts hleaves ih⟩
      · -- The last token of the rule is the modifier of the next one.
        simp only [LeavesModifier, not_forall, not_not] at hleaves
        obtain ⟨hnamed, t, hlast, hword⟩ := hleaves
        obtain ⟨vs, rfl⟩ := List.getLast?_eq_some_iff.1 hlast
        obtain ⟨r', hr'⟩ := hts.drop_word rfl hword.1
        obtain ⟨rules'', hfile⟩ := ih.modify hnamed hword
        rw [List.append_assoc, List.singleton_append]
        exact ⟨_, .rule hr' (leavesModifier_of_startsNamed vs t hnamed) hfile⟩

end Derived

namespace GrammarFile

open Derived

theorem wordsAreNames_of_scan {text : String} {tokens : List Token}
    (h : Scan.scan text = .ok tokens) : WordsAreNames tokens := by
  intro t ht htext
  refine (Scan.scanFrom_wellSpelled h t ht).kind_eq_ident ?_
  rw [htext]
  exact ⟨'p', "rivate".toList, rfl, by decide, List.all_eq_true.1 (by decide)⟩

/-- The parts that are read are those of the derivation that leaves modifiers to their rules. -/
theorem readParts_iff {length : Nat} {ts : List Token} (hw : WordsAreNames ts)
    (pairs : List (String × String)) (rules : List Rule) :
    readParts .standard length ts = .ok (pairs, rules) ↔ File LeavesModifier ts pairs rules :=
  ⟨readParts_derives hw, readParts_eq_ok hw⟩

theorem ofTokens_eq_ok {name : String} {length : Nat} {ts : List Token} (hw : WordsAreNames ts)
    (g : Grammar) : ofTokens .standard name length ts = .ok g ↔
      ∃ pairs, File LeavesModifier ts pairs g.rules ∧ g.name = name ∧
        g.attributes = Attributes.settled pairs := by
  constructor
  · intro h
    obtain ⟨⟨pairs, rules⟩, hread, rfl⟩ := map_eq_ok h
    exact ⟨pairs, (readParts_iff hw pairs rules).1 hread, rfl, Attributes.ofPairs_eq_settled pairs⟩
  · rintro ⟨pairs, hfile, hname, hattributes⟩
    rw [ofTokens, (readParts_iff hw pairs g.rules).2 hfile, ← hname]
    simp only [Except.map, Attributes.ofPairs_eq_settled, ← hattributes]
    rfl

/-- The tokens of a text are accepted exactly if they derive. The grammar is then the one of the
derivation in which no rule takes the modifier of the rule after it, and its attributes are the
pairs of all blocks. -/
theorem accepted_iff_derives {text : String} {tokens : List Token}
    (hscan : Scan.scan text = .ok tokens) (name : String) (length : Nat) :
    ((∃ g, ofTokens .standard name length tokens = .ok g) ↔
      ∃ pairs rules, File Unrestricted tokens pairs rules) ∧
    ∀ g, ofTokens .standard name length tokens = .ok g ↔
      ∃ pairs, File LeavesModifier tokens pairs g.rules ∧ g.name = name ∧
        g.attributes = Attributes.settled pairs := by
  have hw := wordsAreNames_of_scan hscan
  refine ⟨⟨?_, ?_⟩, ofTokens_eq_ok hw⟩
  · rintro ⟨g, hg⟩
    obtain ⟨pairs, hfile, -⟩ := (ofTokens_eq_ok hw g).1 hg
    exact ⟨pairs, g.rules, hfile.mono fun _ _ _ => trivial⟩
  · rintro ⟨pairs, rules, hfile⟩
    obtain ⟨rules', hfile'⟩ := hfile.leavesModifier
    exact ⟨⟨name, Attributes.settled pairs, rules'⟩,
      (ofTokens_eq_ok hw _).2 ⟨pairs, hfile', rfl, rfl⟩⟩

/-- In `a ::= b private c ::= 'x'` the word in the middle modifies the second rule. -/
theorem accepted_with_modifier : ∃ tokens g,
    Scan.scan "a ::= b private c ::= 'x'" = .ok tokens ∧
    ofTokens .standard "g" 0 tokens = .ok g ∧
    g.rules.map (fun r => (r.name, r.isPrivate)) = [("a", false), ("c", true)] ∧
    ∃ pairs, File LeavesModifier tokens pairs g.rules ∧
      g.attributes = Attributes.settled pairs := by
  obtain ⟨tokens, hscan, g, hg, hrules⟩ : ∃ tokens,
      Scan.scan "a ::= b private c ::= 'x'" = .ok tokens ∧ ∃ g,
        ofTokens .standard "g" 0 tokens = .ok g ∧
        g.rules.map (fun r => (r.name, r.isPrivate)) = [("a", false), ("c", true)] :=
    ⟨_, by cbv, _, by cbv, by cbv⟩
  obtain ⟨pairs, hfile, -, hattributes⟩ := ((accepted_iff_derives hscan "g" 0).2 g).1 hg
  exact ⟨tokens, g, hscan, hg, hrules, pairs, hfile, hattributes⟩

end GrammarFile

end GrammarForge
