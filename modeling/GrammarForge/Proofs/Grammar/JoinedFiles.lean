import GrammarForge.Proofs.Grammar.BalancedBraces
import GrammarForge.Proofs.Grammar.MovedTokens

/-!
# Grammar files compose

Two texts of grammars with a semicolon on a line of its own between them are one grammar: the rules
of the first and then those of the second, and the settings of the first with those of the second
put over them. Neither a comment nor an open literal, an empty body or a word `private` at the end
of the first text reaches over the line with the semicolon.
-/

namespace GrammarForge

namespace Attributes

/-- Make the settings `more` as well, in order. -/
def insertAll (attributes more : Attributes) : Attributes :=
  more.foldl (fun attributes (key, value) => attributes.insert key value) attributes

theorem insertAll_ofPairs (pairs : List (String × String)) (more : Attributes) :
    (ofPairs pairs).insertAll more = ofPairs (pairs ++ more) := List.foldl_append.symm

theorem keys_settled (pairs : List (String × String)) :
    (settled pairs).map (·.1) = distinct (pairs.map (·.1)) := by
  rw [settled, List.map_map]
  exact List.map_id _

theorem lookup_map_self (keys : List String) (f : String → String) (key : String) :
    (keys.map fun k => (k, f k)).lookup key = if key ∈ keys then some (f key) else none := by
  induction keys with
  | nil => rfl
  | cons k keys ih =>
      rw [List.map_cons, List.lookup_cons, ih]
      by_cases hkey : key = k
      · simp [hkey]
      · have hbeq : (key == k) = false := by simpa using hkey
        simp [hkey, hbeq]

/-- Keys with the last of their values are looked up as in the pairs from the end. -/
theorem lookup_last {pairs : List (String × String)} {keys : List String}
    (hkeys : ∀ key, key ∈ keys ↔ key ∈ pairs.map (·.1)) (key : String) :
    (keys.map fun k => (k, (pairs.reverse.lookup k).getD "")).lookup key =
      pairs.reverse.lookup key := by
  rw [lookup_map_self]
  cases hlookup : pairs.reverse.lookup key with
  | some value =>
      obtain ⟨front, back, hpairs, -⟩ := List.lookup_eq_some_iff.1 hlookup
      have hmem : (key, value) ∈ pairs := List.mem_reverse.1 (hpairs ▸ by simp)
      rw [if_pos ((hkeys key).2 (List.mem_map_of_mem hmem))]
      rfl
  | none =>
      rw [if_neg]
      intro hmem
      obtain ⟨pair, hpair, rfl⟩ := List.mem_map.1 ((hkeys key).1 hmem)
      have hne := List.lookup_eq_none_iff.1 hlookup pair (List.mem_reverse.2 hpair)
      simp at hne

/-- The last of the values that a key is given counts. -/
theorem get?_settled (pairs : List (String × String)) (key : String) :
    (settled pairs).get? key = pairs.reverse.lookup key :=
  lookup_last (fun _ => mem_distinct) key

/-- Pairs may be settled by themselves before they come after others. -/
theorem settled_append_settled (pairs more : List (String × String)) :
    settled (pairs ++ settled more) = settled (pairs ++ more) := by
  have hkeys : distinct ((pairs ++ settled more).map (·.1)) =
      distinct ((pairs ++ more).map (·.1)) := by
    rw [List.map_append, List.map_append, keys_settled, distinct_append_distinct]
  have hvalues (key : String) : (pairs ++ settled more).reverse.lookup key =
      (pairs ++ more).reverse.lookup key := by
    have hmore : (settled more).reverse.lookup key = more.reverse.lookup key := by
      rw [settled, ← List.map_reverse]
      exact lookup_last (fun _ => List.mem_reverse.trans mem_distinct) key
    rw [List.reverse_append, List.reverse_append, List.lookup_append, List.lookup_append, hmore]
  show (distinct ((pairs ++ settled more).map (·.1))).map _ =
    (distinct ((pairs ++ more).map (·.1))).map _
  rw [hkeys]
  exact List.map_congr_left fun key _ => by rw [hvalues key]

theorem insertAll_settled (pairs more : List (String × String)) :
    (settled pairs).insertAll (settled more) = settled (pairs ++ more) := by
  rw [← ofPairs_eq_settled pairs, insertAll_ofPairs, ofPairs_eq_settled, settled_append_settled]

/-- Keys keep their places, new ones come after them. -/
theorem keys_insertAll_settled (pairs more : List (String × String)) :
    ((settled pairs).insertAll (settled more)).map (·.1) =
      distinct ((settled pairs).map (·.1) ++ (settled more).map (·.1)) := by
  rw [insertAll_settled, keys_settled, keys_settled, keys_settled, List.map_append,
    distinct_append_distinct, distinct_distinct_append]

/-- A value set later counts. -/
theorem get?_insertAll_settled (pairs more : List (String × String)) (key : String) :
    ((settled pairs).insertAll (settled more)).get? key =
      ((settled more).get? key).or ((settled pairs).get? key) := by
  rw [insertAll_settled, get?_settled, get?_settled, get?_settled, List.reverse_append,
    List.lookup_append]

end Attributes

namespace Scan

/-- The semicolon on a line of its own. -/
theorem scans_seam (rest : List Char) (pos : Nat) :
    ∃ t : Token, t.kind = .semicolon ∧ Scans rest pos "\n;\n".toList [t] := by
  have hblank (after : List Char) : Fits none ['\n'] after := .blank rfl
  have hsemicolon : Fits (some .semicolon) [';'] (['\n'] ++ rest) :=
    ⟨⟨';', rfl, rfl⟩, nofun⟩
  have hend : Scans rest (pos + 1 + 1) (['\n'] ++ []) [] := .skip (hblank _) .nil
  exact ⟨_, rfl, .skip (hblank _) (.token hsemicolon hend)⟩

/-- The tokens of two texts with a semicolon on a line of its own between them. -/
theorem scan_joined {t₁ t₂ : String} {ts₁ ts₂ : List Token} (h₁ : scan t₁ = .ok ts₁)
    (h₂ : scan t₂ = .ok ts₂) : ∃ semicolon : Token, semicolon.kind = .semicolon ∧
      scan (t₁ ++ "\n;\n" ++ t₂) =
        .ok (ts₁ ++ semicolon :: ts₂.map (Token.shift (t₁.utf8ByteSize + 3))) := by
  rw [scan_iff] at h₁ h₂
  obtain ⟨semicolon, hkind, hseam⟩ := scans_seam t₂.toList (0 + byteLength t₁.toList)
  have hfront : Scans ("\n;\n".toList ++ t₂.toList) 0 t₁.toList ts₁ :=
    h₁.replace (endsLine_cons _)
  have hback : Scans [] (0 + byteLength (t₁.toList ++ "\n;\n".toList)) t₂.toList
      (ts₂.map (Token.shift (t₁.utf8ByteSize + 3))) := by
    rw [byteLength_append, byteLength_toList]
    exact h₂.shift _
  have hjoined := hfront.append hseam
  refine ⟨semicolon, hkind, ?_⟩
  rw [scan_iff, String.toList_append, String.toList_append]
  rw [← List.append_nil t₂.toList] at hjoined
  simpa using hjoined.append hback

end Scan

namespace Environment

open Derived

variable {env : Environment}

/-- Two parsed texts with a semicolon on a line of its own between them are parsed to the rules of
the first and, further on by the length of the text in front of them, the rules of the second. The
settings of the second are made after those of the first: a key that both have keeps its place and
has the second value. -/
theorem joined_texts_parse (hfactory : env.factory? grammarLanguage = some .standard)
    (hmatcher : env.matcher? grammarLanguage = some .standard) (name : String)
    {name₁ name₂ t₁ t₂ : String} {g₁ g₂ : Grammar}
    (h₁ : ParserDefinition.standard.parse env name₁ t₁ = .grammar g₁)
    (h₂ : ParserDefinition.standard.parse env name₂ t₂ = .grammar g₂) :
    ∃ g, ParserDefinition.standard.parse env name (t₁ ++ "\n;\n" ++ t₂) = .grammar g ∧
      g.rules = g₁.rules ++ g₂.rules.map (Rule.shift (t₁.utf8ByteSize + 3)) ∧
      g.attributes = g₁.attributes.insertAll g₂.attributes ∧
      g.attributes.map (·.1) = distinct (g₁.attributes.map (·.1) ++ g₂.attributes.map (·.1)) ∧
      ∀ key, g.attributes.get? key = (g₂.attributes.get? key).or (g₁.attributes.get? key) := by
  obtain ⟨ts₁, pairs, hscan₁, hfile₁, hsettled₁⟩ := file_of_parse hfactory h₁
  obtain ⟨ts₂, more, hscan₂, hfile₂, hsettled₂⟩ := file_of_parse hfactory h₂
  obtain ⟨semicolon, hkind, hscan⟩ := Scan.scan_joined hscan₁ hscan₂
  have hfile := hfile₁.append hkind (hfile₂.shift (t₁.utf8ByteSize + 3))
  refine ⟨_, parse_of_file hfactory hmatcher name hscan hfile, rfl, ?_, ?_, ?_⟩
  · rw [hsettled₁, hsettled₂, Attributes.insertAll_settled]
  · rw [hsettled₁, hsettled₂, ← Attributes.keys_insertAll_settled, Attributes.insertAll_settled]
  · intro key
    rw [hsettled₁, hsettled₂, ← Attributes.get?_insertAll_settled, Attributes.insertAll_settled]

/-- The first text ends in an empty body and an open comment, and the second starts with a modifier. -/
theorem joined_texts_parse_around_comment : ∃ g,
    ParserDefinition.standard.parse standard "g"
      ("\x7b k = v l = v \x7d a ::= // end" ++ "\n;\n" ++
        "private c ::= 'x' \x7b m = x ; k = 'y' \x7d") = .grammar g ∧
      g.rules.map (fun r => (r.name, r.isPrivate, r.span)) =
        [("a", false, ⟨16, 21⟩), ("c", true, ⟨31, 48⟩)] ∧
      g.attributes = [("k", "y"), ("l", "v"), ("m", "x")] := by
  have h₁ : ParserDefinition.standard.parse standard "g" "\x7b k = v l = v \x7d a ::= // end" =
      .grammar ⟨"g", [("k", "v"), ("l", "v")], [⟨"a", false, .sequence [], ⟨16, 21⟩⟩]⟩ := by cbv
  have h₂ : ParserDefinition.standard.parse standard "g"
      "private c ::= 'x' \x7b m = x ; k = 'y' \x7d" =
      .grammar ⟨"g", [("m", "x"), ("k", "y")], [⟨"c", true, .literal "x", ⟨0, 17⟩⟩]⟩ := by cbv
  obtain ⟨g, hg, hrules, hattributes, -⟩ := joined_texts_parse rfl rfl "g" h₁ h₂
  refine ⟨g, hg, ?_, ?_⟩
  · rw [hrules]
    decide
  · rw [hattributes]
    decide

end Environment

end GrammarForge
