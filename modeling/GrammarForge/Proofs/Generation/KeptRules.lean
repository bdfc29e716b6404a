import GrammarForge.Generation.Analysis
import Mathlib.Data.List.Induction
import Mathlib.Data.List.Nodup

/-!
# First occurrences

What is kept of a grammar: every name once, in the order of the first appearances, and with each
name the first rule that bears it.
-/

namespace GrammarForge

section Distinct

variable {α : Type} [DecidableEq α]

@[simp] theorem mem_distinct {a : α} {as : List α} : a ∈ distinct as ↔ a ∈ as := by
  induction as with
  | nil => simp [distinct]
  | cons b as ih =>
      simp only [distinct, List.mem_cons, List.mem_filter, ih, ne_eq, decide_eq_true_eq]
      constructor
      · rintro (h | ⟨h, -⟩)
        · exact .inl h
        · exact .inr h
      · intro h
        by_cases hab : a = b
        · exact .inl hab
        · exact .inr ⟨h.resolve_left hab, hab⟩

theorem nodup_distinct (as : List α) : (distinct as).Nodup := by
  induction as with
  | nil => exact List.nodup_nil
  | cons a as ih =>
      rw [distinct, List.nodup_cons]
      refine ⟨?_, ih.filter _⟩
      simp

theorem distinct_concat (as : List α) (a : α) :
    distinct (as ++ [a]) = if a ∈ as then distinct as else distinct as ++ [a] := by
  induction as with
  | nil => simp [distinct]
  | cons b as ih =>
      rw [List.cons_append, distinct, distinct, ih]
      by_cases hmem : a ∈ as
      · rw [if_pos hmem, if_pos (List.mem_cons_of_mem b hmem)]
      · by_cases hab : a = b
        · subst hab
          simp [hmem]
        · simp [hmem, hab]

theorem distinct_append_distinct (as bs : List α) :
    distinct (as ++ distinct bs) = distinct (as ++ bs) := by
  induction bs using List.reverseRecOn with
  | nil => rfl
  | append_singleton bs b ih =>
      rw [distinct_concat, ← List.append_assoc, distinct_concat, ← ih]
      by_cases hb : b ∈ bs
      · simp [hb]
      · rw [if_neg hb, ← List.append_assoc, distinct_concat]
        simp [hb]

theorem distinct_of_nodup {as : List α} (h : as.Nodup) : distinct as = as := by
  induction as with
  | nil => rfl
  | cons a as ih =>
      rw [List.nodup_cons] at h
      rw [distinct, ih h.2, List.filter_eq_self.2]
      intro b hb
      simpa using ne_of_mem_of_not_mem hb h.1

theorem distinct_distinct_append (as bs : List α) :
    distinct (distinct as ++ bs) = distinct (as ++ bs) := by
  induction bs using List.reverseRecOn with
  | nil => rw [List.append_nil, List.append_nil, distinct_of_nodup (nodup_distinct as)]
  | append_singleton bs b ih =>
      rw [← List.append_assoc, distinct_concat, ← List.append_assoc, distinct_concat, ih]
      simp

end Distinct

/-- What is found by a key that is different for all elements. -/
theorem find?_of_nodup_map {α β : Type} [DecidableEq β] {f : α → β} {as : List α}
    (h : (as.map f).Nodup) {a : α} (ha : a ∈ as) : as.find? (f · = f a) = some a := by
  induction as with
  | nil => cases ha
  | cons first rest ih =>
      rw [List.map_cons, List.nodup_cons] at h
      cases ha with
      | head => simp
      | tail _ ha =>
          have hfirst : f first ≠ f a := fun heq => h.1 (heq ▸ List.mem_map_of_mem ha)
          rw [List.find?_cons_of_neg (by simpa using hfirst)]
          exact ih h.2 ha

/-- A rule is kept if its name is new, and then it is the first of that name. -/
theorem splitDuplicates_find? (seen : List String) (rules : List Rule) (name : String) :
    (splitDuplicates seen rules).1.find? (·.name = name) =
      if name ∈ seen then none else rules.find? (·.name = name) := by
  induction rules generalizing seen with
  | nil => simp [splitDuplicates]
  | cons r rest ih =>
      rw [splitDuplicates]
      by_cases hseen : r.name ∈ seen
      · simp only [List.contains_iff_mem, hseen, if_true, ih]
        by_cases hname : name ∈ seen
        · rw [if_pos hname, if_pos hname]
        · have hne : r.name ≠ name := fun h => hname (h ▸ hseen)
          simp [hname, hne]
      · simp only [List.contains_iff_mem, hseen, if_false, List.find?_cons, ih]
        by_cases hname : r.name = name
        · simp [hname, hname ▸ hseen]
        · simp [hname, Ne.symm hname]

theorem splitDuplicates_names (seen : List String) (rules : List Rule) :
    (∀ r ∈ (splitDuplicates seen rules).1, r.name ∉ seen) ∧
      ((splitDuplicates seen rules).1.map (·.name)).Nodup := by
  induction rules generalizing seen with
  | nil => simp [splitDuplicates]
  | cons r rest ih =>
      rw [splitDuplicates]
      by_cases hseen : r.name ∈ seen
      · simpa only [List.contains_iff_mem, hseen, if_true] using ih seen
      · obtain ⟨hnew, hnodup⟩ := ih (r.name :: seen)
        simp only [List.contains_iff_mem, hseen, if_false, List.map_cons, List.nodup_cons]
        refine ⟨?_, ?_, hnodup⟩
        · intro kept hkept
          cases hkept with
          | head => exact hseen
          | tail _ hkept => exact fun hmem => hnew kept hkept (List.mem_cons_of_mem _ hmem)
        · intro hmem
          obtain ⟨kept, hkept, hname⟩ := List.mem_map.1 hmem
          exact hnew kept hkept (by simp [hname])

theorem splitDuplicates_sublist (seen : List String) (rules : List Rule) :
    (splitDuplicates seen rules).1.Sublist rules := by
  induction rules generalizing seen with
  | nil => exact .slnil
  | cons r rest ih =>
      rw [splitDuplicates]
      split
      · exact (ih seen).cons r
      · exact (ih (r.name :: seen)).cons_cons r

namespace Analysis

theorem rules_find? (g : Grammar) (name : String) :
    (ofGrammar g).rules.find? (·.name = name) = g.rule? name := by
  have h := splitDuplicates_find? [] g.rules name
  rwa [if_neg List.not_mem_nil] at h

/-- A name is defined if a rule of the grammar bears it. -/
theorem isDefined_eq (g : Grammar) (name : String) :
    (ofGrammar g).isDefined name = (g.rule? name).isSome := by
  rw [← rules_find? g name, isDefined, defines, List.isSome_find?]

theorem mem_of_mem_rules {g : Grammar} {r : Rule} (h : r ∈ (ofGrammar g).rules) : r ∈ g.rules :=
  (splitDuplicates_sublist [] g.rules).subset h

theorem mem_rules_of_rule? {g : Grammar} {name : String} {r : Rule} (h : g.rule? name = some r) :
    r ∈ (ofGrammar g).rules ∧ r.name = name := by
  rw [← rules_find?] at h
  exact ⟨List.mem_of_find?_eq_some h, by simpa using List.find?_some h⟩

theorem nodup_names (g : Grammar) : ((ofGrammar g).rules.map (·.name)).Nodup :=
  (splitDuplicates_names [] g.rules).2

theorem rule?_of_mem_rules {g : Grammar} {r : Rule} (h : r ∈ (ofGrammar g).rules) :
    g.rule? r.name = some r := by
  rw [← rules_find?]
  exact find?_of_nodup_map (nodup_names g) h

theorem mem_tokens {g : Grammar} {r : Rule} (h : r ∈ (ofGrammar g).rules) :
    ∀ t ∈ r.expr.tokens, t ∈ (ofGrammar g).tokens := by
  intro t ht
  have hmem : t ∈ (ofGrammar g).rules.flatMap (·.expr.tokens) := List.mem_flatMap.2 ⟨r, h, ht⟩
  exact mem_distinct.2 hmem

end Analysis

end GrammarForge
