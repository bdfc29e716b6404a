import GrammarForge.Proofs.Generation.KeptRules
import Mathlib.Data.List.FinRange
import Mathlib.Data.List.Perm.Basic

/-!
# What the analysis finds

The analysis of a grammar is pinned down by where things stand in the grammar: which rule is the
first of its name, where a token or a dangling reference is used for the first time, and which
private rules no other rule refers to. An analysis meets these conditions exactly if it is the one
of the grammar. The same is found by going over the rules step by step, with maps and sets that keep
the order of insertion.
-/

namespace GrammarForge

/-! ## Order of first use -/

/-- The elements of `uses`, each once, in the order in which they are first used. -/
structure InOrderOfFirstUse {α : Type} [DecidableEq α] (uses found : List α) : Prop where
  nodup : found.Nodup
  mem_iff : ∀ a, a ∈ found ↔ a ∈ uses
  ordered : found.Pairwise fun a b => uses.idxOf a < uses.idxOf b

section

variable {α : Type} [DecidableEq α]

theorem ordered_distinct (as : List α) :
    (distinct as).Pairwise fun a b => as.idxOf a < as.idxOf b := by
  induction as with
  | nil => exact .nil
  | cons a as ih =>
      have hne {b : α} (hb : b ∈ (distinct as).filter (· ≠ a)) : a ≠ b :=
        Ne.symm (by simpa using (List.mem_filter.1 hb).2)
      refine .cons (fun b hb => ?_) ((ih.filter _).imp_of_mem fun hb hc hlt => ?_)
      · rw [List.idxOf_cons_self, List.idxOf_cons_ne _ (hne hb)]
        exact Nat.succ_pos _
      · rw [List.idxOf_cons_ne _ (hne hb), List.idxOf_cons_ne _ (hne hc)]
        exact Nat.succ_lt_succ hlt

theorem inOrderOfFirstUse_distinct (as : List α) : InOrderOfFirstUse as (distinct as) :=
  ⟨nodup_distinct as, fun _ => mem_distinct, ordered_distinct as⟩

/-- There is one list in this order. -/
theorem InOrderOfFirstUse.unique {uses found found' : List α} (h : InOrderOfFirstUse uses found)
    (h' : InOrderOfFirstUse uses found') : found = found' := by
  have hperm : found.Perm found' :=
    (List.perm_ext_iff_of_nodup h.nodup h'.nodup).2 fun a => (h.mem_iff a).trans (h'.mem_iff a).symm
  refine hperm.eq_of_pairwise (fun a b _ _ hab hba => ?_) h.ordered h'.ordered
  omega

/-- Add an element to a set that keeps the order of insertion. -/
def insertNew (set : List α) (a : α) : List α := if a ∈ set then set else set ++ [a]

theorem foldl_insertNew (as bs : List α) :
    bs.foldl insertNew (distinct as) = distinct (as ++ bs) := by
  induction bs generalizing as with
  | nil => rw [List.append_nil]; rfl
  | cons b bs ih =>
      have hb : insertNew (distinct as) b = distinct (as ++ [b]) := by
        rw [distinct_concat, insertNew]
        simp only [mem_distinct]
      rw [List.foldl_cons, hb, ih, List.append_assoc, List.singleton_append]

end

/-! ## First rules -/

/-- The rules at the positions for which `p` holds. -/
def rulesAt (rules : List Rule) (p : Fin rules.length → Prop) [DecidablePred p] : List Rule :=
  ((List.finRange rules.length).filter p).map rules.get

/-- No rule in front of the position has the name of the rule there. -/
def IsFirst (rules : List Rule) (i : Fin rules.length) : Prop :=
  ∀ j < i, (rules.get j).name ≠ (rules.get i).name

instance (rules : List Rule) : DecidablePred (IsFirst rules) :=
  fun _ => inferInstanceAs (Decidable (∀ j, j < _ → _))

theorem rulesAt_cons (r : Rule) (rest : List Rule) (p : Fin (r :: rest).length → Prop)
    [DecidablePred p] : rulesAt (r :: rest) p =
      (if p 0 then [r] else []) ++ rulesAt rest fun i => p i.succ := by
  have hrange : List.finRange (r :: rest).length = 0 :: (List.finRange rest.length).map Fin.succ :=
    List.finRange_succ
  rw [rulesAt, hrange, List.filter_cons, List.filter_map]
  by_cases hp : p 0 <;> simp [hp, rulesAt, Function.comp_def]

theorem rulesAt_congr {rules : List Rule} {p q : Fin rules.length → Prop} [DecidablePred p]
    [DecidablePred q] (h : ∀ i, p i ↔ q i) : rulesAt rules p = rulesAt rules q := by
  simp only [rulesAt, h]

theorem rulesAt_perm (rules : List Rule) (p : Fin rules.length → Prop) [DecidablePred p] :
    (rulesAt rules p ++ rulesAt rules fun i => ¬ p i).Perm rules := by
  have hall : (List.finRange rules.length).map rules.get = rules := List.map_get_finRange rules
  have hparts := List.filter_append_perm (fun i => decide (p i)) (List.finRange rules.length)
  have hmapped := hparts.map rules.get
  rw [List.map_append, hall] at hmapped
  simpa [rulesAt] using hmapped

/-- The name of the rule is not among `seen` and not that of a rule in front of it. -/
def IsNew (seen : List String) (rules : List Rule) (i : Fin rules.length) : Prop :=
  (rules.get i).name ∉ seen ∧ IsFirst rules i

instance (seen : List String) (rules : List Rule) : DecidablePred (IsNew seen rules) :=
  fun _ => inferInstanceAs (Decidable (_ ∧ _))

theorem isNew_zero (seen : List String) (r : Rule) (rest : List Rule) :
    IsNew seen (r :: rest) 0 ↔ r.name ∉ seen :=
  ⟨fun h => h.1, fun h => ⟨h, fun j hj => (Fin.not_lt_zero j hj).elim⟩⟩

theorem isNew_succ (seen : List String) (r : Rule) (rest : List Rule) (i : Fin rest.length) :
    IsNew seen (r :: rest) i.succ ↔ IsNew (r.name :: seen) rest i := by
  have hfirst : IsFirst (r :: rest) i.succ ↔ r.name ≠ (rest.get i).name ∧ IsFirst rest i := by
    constructor
    · exact fun h => ⟨h 0 (Fin.succ_pos i), fun j hj => h j.succ (Fin.succ_lt_succ_iff.2 hj)⟩
    · rintro ⟨hr, hrest⟩ j hj
      cases j using Fin.cases with
      | zero => exact hr
      | succ j => exact hrest j (Fin.succ_lt_succ_iff.1 hj)
  have hget : (r :: rest).get i.succ = rest.get i := rfl
  rw [IsNew, IsNew, hfirst, hget, List.mem_cons, not_or, ne_comm, and_left_comm, and_assoc]

theorem isNew_cons_of_mem {seen : List String} {name : String} (h : name ∈ seen) (rules : List Rule)
    (i : Fin rules.length) : IsNew (name :: seen) rules i ↔ IsNew seen rules i := by
  have hmem : (rules.get i).name ∈ name :: seen ↔ (rules.get i).name ∈ seen :=
    List.mem_cons.trans ⟨fun hor => hor.elim (· ▸ h) id, .inr⟩
  rw [IsNew, IsNew, hmem]

/-- A rule is a duplicate if its name is among `seen` or that of a rule in front of it. -/
theorem splitDuplicates_eq (seen : List String) (rules : List Rule) :
    splitDuplicates seen rules =
      (rulesAt rules (IsNew seen rules), rulesAt rules fun i => ¬ IsNew seen rules i) := by
  induction rules generalizing seen with
  | nil => rfl
  | cons r rest ih =>
      rw [splitDuplicates, rulesAt_cons, rulesAt_cons]
      by_cases hseen : r.name ∈ seen
      · simp [hseen, isNew_zero, isNew_succ, isNew_cons_of_mem hseen, ih]
      · simp [hseen, isNew_zero, isNew_succ, ih]

/-! ## The specification -/

/-- The rule refers to a name that no rule of the grammar bears; each time counts. -/
def danglingUses (g : Grammar) (r : Rule) : List (String × String) :=
  (r.expr.references.filter fun name => ∀ q ∈ g.rules, q.name ≠ name).map fun name => (r.name, name)

namespace Analysis

/-- What an analysis of the grammar holds. The first rule of each name is kept, and all else is said
of kept rules. -/
structure IsOf (a : Analysis) (g : Grammar) : Prop where
  rules : a.rules = rulesAt g.rules (IsFirst g.rules)
  duplicates : a.duplicates = rulesAt g.rules fun i => ¬ IsFirst g.rules i
  tokens : InOrderOfFirstUse (a.rules.flatMap (·.expr.tokens)) a.tokens
  unresolved : InOrderOfFirstUse (a.rules.flatMap (danglingUses g)) a.unresolved
  /-- The names are in the order of the rules. -/
  unusedPrivate_sublist : a.unusedPrivate.Sublist (a.rules.map (·.name))
  mem_unusedPrivate_iff : ∀ r ∈ a.rules, r.name ∈ a.unusedPrivate ↔ r.isPrivate = true ∧
    g.rules.head? ≠ some r ∧ ∀ q ∈ a.rules, q.name ≠ r.name → r.name ∉ q.expr.references

theorem isNew_nil (rules : List Rule) (i : Fin rules.length) :
    IsNew [] rules i ↔ IsFirst rules i :=
  and_iff_right (List.not_mem_nil)

theorem rules_eq (g : Grammar) : (ofGrammar g).rules = rulesAt g.rules (IsFirst g.rules) := by
  change (splitDuplicates [] g.rules).1 = _
  rw [splitDuplicates_eq, rulesAt_congr (isNew_nil g.rules)]

theorem duplicates_eq (g : Grammar) :
    (ofGrammar g).duplicates = rulesAt g.rules fun i => ¬ IsFirst g.rules i := by
  change (splitDuplicates [] g.rules).2 = _
  rw [splitDuplicates_eq, rulesAt_congr fun i => not_congr (isNew_nil g.rules i)]

theorem defines_eq_true_iff {rules : List Rule} {name : String} :
    defines rules name = true ↔ ∃ r ∈ rules, r.name = name := by
  simp [defines]

/-- The names of the kept rules are all names of rules. -/
theorem defines_rules_iff (g : Grammar) (name : String) :
    defines (ofGrammar g).rules name = true ↔ ∃ r ∈ g.rules, r.name = name := by
  change (ofGrammar g).isDefined name = true ↔ _
  rw [isDefined_eq, Grammar.rule?, List.find?_isSome]
  simp

theorem danglingUses_eq (g : Grammar) (r : Rule) : danglingUses g r =
    (r.expr.references.filter fun name => !defines (ofGrammar g).rules name).map
      fun name => (r.name, name) := by
  rw [danglingUses]
  congr 1
  refine List.filter_congr fun name _ => ?_
  rw [Bool.eq_iff_iff, Bool.not_eq_true', ← Bool.not_eq_true, defines_rules_iff]
  simp

theorem unresolved_eq (g : Grammar) :
    (ofGrammar g).unresolved = distinct ((ofGrammar g).rules.flatMap (danglingUses g)) := by
  rw [funext (danglingUses_eq g)]
  rfl

/-- A kept rule has the name of the first rule only if it is the first rule. -/
theorem head?_name_iff {g : Grammar} {r : Rule} (hr : r ∈ (ofGrammar g).rules) :
    (g.root?.all fun root => root.name ≠ r.name) = true ↔ g.rules.head? ≠ some r := by
  have hkept := rule?_of_mem_rules hr
  cases hrules : g.rules with
  | nil => simp [Grammar.root?, hrules]
  | cons root rest =>
      rw [Grammar.rule?, hrules] at hkept
      by_cases hname : root.name = r.name
      · rw [List.find?_cons_of_pos (by simpa using hname)] at hkept
        simp [Grammar.root?, hrules, hkept]
      · have hne : root ≠ r := fun h => hname (congrArg Rule.name h)
        simp [Grammar.root?, hrules, hname, hne]

theorem mem_unusedPrivate_iff {g : Grammar} {r : Rule} (hr : r ∈ (ofGrammar g).rules) :
    r.name ∈ (ofGrammar g).unusedPrivate ↔ r.isPrivate = true ∧ g.rules.head? ≠ some r ∧
      ∀ q ∈ (ofGrammar g).rules, q.name ≠ r.name → r.name ∉ q.expr.references := by
  have hreferred : isReferred (ofGrammar g).rules r.name = false ↔
      ∀ q ∈ (ofGrammar g).rules, q.name ≠ r.name → r.name ∉ q.expr.references := by
    simp [isReferred]
  rw [← hreferred, ← head?_name_iff hr]
  change r.name ∈ ((ofGrammar g).rules.filter fun q => q.isPrivate &&
    (g.root?.all fun root => root.name ≠ q.name) &&
    !isReferred (ofGrammar g).rules q.name).map (·.name) ↔ _
  constructor
  · intro h
    obtain ⟨q, hq, hname⟩ := List.mem_map.1 h
    obtain ⟨hmem, hunused⟩ := List.mem_filter.1 hq
    obtain rfl : q = r :=
      Option.some.inj ((rule?_of_mem_rules hmem).symm.trans (hname ▸ rule?_of_mem_rules hr))
    simpa [and_assoc] using hunused
  · intro h
    exact List.mem_map_of_mem (List.mem_filter.2 ⟨hr, by simpa [and_assoc] using h⟩)

theorem isOf_ofGrammar (g : Grammar) : (ofGrammar g).IsOf g where
  rules := rules_eq g
  duplicates := duplicates_eq g
  tokens := inOrderOfFirstUse_distinct _
  unresolved := unresolved_eq g ▸ inOrderOfFirstUse_distinct _
  unusedPrivate_sublist := List.filter_sublist.map _
  mem_unusedPrivate_iff _ hr := mem_unusedPrivate_iff hr

/-- A part of a list without repeats is known by its elements. -/
theorem eq_of_sublists {α : Type} [DecidableEq α] {as bs bs' : List α} (has : as.Nodup)
    (h : bs.Sublist as) (h' : bs'.Sublist as) (hmem : ∀ a ∈ as, a ∈ bs ↔ a ∈ bs') : bs = bs' := by
  have hperm : bs.Perm bs' := (List.perm_ext_iff_of_nodup (has.sublist h) (has.sublist h')).2
    fun a => ⟨fun ha => (hmem a (h.subset ha)).1 ha, fun ha => (hmem a (h'.subset ha)).2 ha⟩
  have hordered := ordered_distinct as
  rw [distinct_of_nodup has] at hordered
  refine hperm.eq_of_pairwise (fun a b _ _ hab hba => ?_) (hordered.sublist h) (hordered.sublist h')
  omega

theorem IsOf.unique {a : Analysis} {g : Grammar} (h : a.IsOf g) : a = ofGrammar g := by
  have h' := isOf_ofGrammar g
  have hrules : a.rules = (ofGrammar g).rules := h.rules.trans h'.rules.symm
  have hduplicates : a.duplicates = (ofGrammar g).duplicates :=
    h.duplicates.trans h'.duplicates.symm
  have htokens := (hrules ▸ h.tokens).unique h'.tokens
  have hunresolved := (hrules ▸ h.unresolved).unique h'.unresolved
  have hunused : a.unusedPrivate = (ofGrammar g).unusedPrivate := by
    refine eq_of_sublists (nodup_names g) (hrules ▸ h.unusedPrivate_sublist)
      h'.unusedPrivate_sublist fun name hname => ?_
    obtain ⟨r, hr, rfl⟩ := List.mem_map.1 hname
    rw [h.mem_unusedPrivate_iff r (hrules ▸ hr), h'.mem_unusedPrivate_iff r hr, hrules]
  cases a
  simp_all

/-! ## The passes -/

/-- Kept rules by name, in the order in which they were found. -/
abbrev RuleMap := List (String × Rule)

def byName (rules : List Rule) : RuleMap := rules.map fun r => (r.name, r)

/-- A step of the first pass: the rule is kept if its name is new, and a duplicate otherwise. -/
def keep (found : RuleMap × List Rule) (r : Rule) : RuleMap × List Rule :=
  if (found.1.lookup r.name).isSome then (found.1, found.2 ++ [r])
  else (found.1 ++ [(r.name, r)], found.2)

/-- What the second pass has met. -/
structure Uses where
  tokens : List String
  unresolved : List (String × String)
  /-- The names to which rules of other names refer. -/
  referenced : List String

/-- The rule called `name` refers to `reference`. -/
def noteReference (rules : RuleMap) (name : String) (uses : Uses) (reference : String) : Uses :=
  if (rules.lookup reference).isNone then
    { uses with unresolved := insertNew uses.unresolved (name, reference) }
  else if reference ≠ name then
    { uses with referenced := insertNew uses.referenced reference }
  else uses

/-- A step of the second pass: the tokens of a kept rule, then its references. -/
def note (rules : RuleMap) (uses : Uses) (r : Rule) : Uses :=
  r.expr.references.foldl (noteReference rules r.name)
    { uses with tokens := r.expr.tokens.foldl insertNew uses.tokens }

/-- The kept rules by name, and the analysis, from three passes over the rules. -/
def collect (g : Grammar) : RuleMap × Analysis :=
  let (rules, duplicates) := g.rules.foldl keep ([], [])
  let kept := rules.map (·.2)
  let uses := kept.foldl (note rules) ⟨[], [], []⟩
  let unused := (kept.filter fun r => r.isPrivate && g.root?.map (·.name) ≠ some r.name).map (·.name)
  (rules, ⟨kept, duplicates, uses.tokens, uses.unresolved,
    unused.filter fun name => name ∉ uses.referenced⟩)

theorem foldl_keep (rules : List Rule) (found : RuleMap) (duplicates : List Rule)
    {seen : List String} (hseen : ∀ name, name ∈ seen ↔ (found.lookup name).isSome = true) :
    rules.foldl keep (found, duplicates) =
      (found ++ byName (splitDuplicates seen rules).1,
        duplicates ++ (splitDuplicates seen rules).2) := by
  induction rules generalizing seen found duplicates with
  | nil => simp [splitDuplicates, byName]
  | cons r rest ih =>
      rw [List.foldl_cons, keep, splitDuplicates]
      by_cases hname : r.name ∈ seen
      · rw [if_pos ((hseen r.name).1 hname), if_pos (by simpa using hname), ih _ _ hseen]
        simp
      · have hadd (name : String) : name ∈ r.name :: seen ↔
            ((found ++ [(r.name, r)]).lookup name).isSome = true := by
          by_cases hr : name = r.name
          · simp [hr]
          · have hbeq : (name == r.name) = false := by simpa using hr
            rw [List.mem_cons, or_iff_right hr, hseen, List.lookup_append, List.lookup_cons, hbeq,
              List.lookup_nil, Option.or_none]
        rw [if_neg (by rwa [← hseen]), if_neg (by simpa using hname), ih _ _ hadd]
        simp [byName]

/-- The names of rules that a rule of another name refers to. -/
def usedNames (rules : RuleMap) (r : Rule) : List String :=
  r.expr.references.filter fun name => (rules.lookup name).isSome && name ≠ r.name

/-- The references of a rule to names that are not in the map. -/
def missingUses (rules : RuleMap) (r : Rule) : List (String × String) :=
  (r.expr.references.filter fun name => (rules.lookup name).isNone).map fun name => (r.name, name)

theorem foldl_noteReference (rules : RuleMap) (name : String) (references : List String)
    (uses : Uses) : references.foldl (noteReference rules name) uses =
      { uses with
        unresolved := ((references.filter fun reference => (rules.lookup reference).isNone).map
          fun reference => (name, reference)).foldl insertNew uses.unresolved
        referenced := (references.filter fun reference =>
          (rules.lookup reference).isSome && reference ≠ name).foldl insertNew uses.referenced } := by
  induction references generalizing uses with
  | nil => rfl
  | cons reference rest ih =>
      rw [List.foldl_cons, ih, noteReference]
      cases hlookup : rules.lookup reference with
      | none => simp [hlookup]
      | some r =>
          by_cases hname : reference = name
          · subst hname
            simp [hlookup]
          · simp [hlookup, hname]

theorem foldl_note (rules : RuleMap) (kept : List Rule) (uses : Uses) :
    kept.foldl (note rules) uses =
      ⟨(kept.flatMap (·.expr.tokens)).foldl insertNew uses.tokens,
        (kept.flatMap (missingUses rules)).foldl insertNew uses.unresolved,
        (kept.flatMap (usedNames rules)).foldl insertNew uses.referenced⟩ := by
  induction kept generalizing uses with
  | nil => rfl
  | cons r rest ih =>
      rw [List.foldl_cons, ih, note, foldl_noteReference]
      simp only [List.flatMap_cons, List.foldl_append]
      rfl

theorem isSome_lookup_byName (rules : List Rule) (name : String) :
    ((byName rules).lookup name).isSome = defines rules name := by
  induction rules with
  | nil => rfl
  | cons r rest ih =>
      have hdefines : defines (r :: rest) name = (r.name = name || defines rest name) := rfl
      rw [hdefines, ← ih, byName, List.map_cons, List.lookup_cons]
      by_cases hname : name = r.name
      · simp [hname]
      · simp [beq_eq_false_iff_ne.2 hname, Ne.symm hname, byName]

/-- What another rule refers to is noted only if it is the name of a rule. -/
theorem mem_usedNames_iff {rules : List Rule} {r : Rule} (hr : r ∈ rules) :
    r.name ∈ rules.flatMap (usedNames (byName rules)) ↔ isReferred rules r.name = true := by
  have hname : defines rules r.name = true := defines_eq_true_iff.2 ⟨r, hr, rfl⟩
  simp only [usedNames, isReferred, List.mem_flatMap, List.mem_filter, isSome_lookup_byName, hname,
    List.any_eq_true, Bool.true_and, Bool.and_eq_true, decide_eq_true_eq, List.contains_iff_mem]
  exact exists_congr fun q => and_congr_right fun _ => and_comm.trans (by rw [ne_comm])

/-- The last pass takes the names of private rules, and then those that are not referenced. -/
theorem unusedPrivate_eq (g : Grammar) :
    (ofGrammar g).unusedPrivate =
      (((ofGrammar g).rules.filter fun r => r.isPrivate && g.root?.map (·.name) ≠ some r.name).map
        (·.name)).filter fun name =>
          name ∉ distinct ((ofGrammar g).rules.flatMap (usedNames (byName (ofGrammar g).rules))) := by
  change ((ofGrammar g).rules.filter fun r => r.isPrivate && g.root?.all (·.name ≠ r.name) &&
    !isReferred (ofGrammar g).rules r.name).map (·.name) = _
  rw [List.filter_map, List.filter_filter]
  congr 1
  refine List.filter_congr fun r hr => ?_
  have hroot : decide (g.root?.map (·.name) ≠ some r.name) = g.root?.all (·.name ≠ r.name) := by
    cases g.root? <;> simp
  simp only [hroot, Function.comp_apply, mem_distinct, mem_usedNames_iff hr]
  rw [Bool.and_comm, decide_not, Bool.decide_eq_true]

/-- The passes find the analysis of the grammar, and keep each rule by its name. -/
theorem collect_eq (g : Grammar) : collect g = (byName (ofGrammar g).rules, ofGrammar g) := by
  have hkeep : g.rules.foldl keep ([], []) =
      (byName (ofGrammar g).rules, (ofGrammar g).duplicates) := by
    have hnone (name : String) : name ∈ [] ↔ (([] : RuleMap).lookup name).isSome = true := by simp
    rw [foldl_keep g.rules [] [] hnone, List.nil_append, List.nil_append]
    rfl
  have hkept : (byName (ofGrammar g).rules).map (·.2) = (ofGrammar g).rules := by
    simp [byName, Function.comp_def]
  have hmissing : missingUses (byName (ofGrammar g).rules) = danglingUses g := by
    funext r
    simp only [danglingUses_eq, missingUses, ← isSome_lookup_byName, Option.not_isSome]
  have hinsert {α : Type} [DecidableEq α] (as : List α) : as.foldl insertNew [] = distinct as :=
    foldl_insertNew [] as
  rw [collect, hkeep]
  simp only [hkept, foldl_note, hinsert, hmissing, ← unusedPrivate_eq, ← unresolved_eq]
  rfl

/-! ## What counts -/

theorem rules_append_duplicates_perm (g : Grammar) :
    ((ofGrammar g).rules ++ (ofGrammar g).duplicates).Perm g.rules := by
  rw [rules_eq, duplicates_eq]
  exact rulesAt_perm g.rules (IsFirst g.rules)

/-- The first rule of a grammar is kept. -/
theorem head?_rules (g : Grammar) : (ofGrammar g).rules.head? = g.root? := by
  change (splitDuplicates [] g.rules).1.head? = g.rules.head?
  cases g.rules <;> simp [splitDuplicates]

/-- The rest of an analysis depends on the kept rules alone. -/
theorem ofGrammar_of_rules_eq {g g' : Grammar} (h : (ofGrammar g').rules = (ofGrammar g).rules) :
    ofGrammar g' = { ofGrammar g with duplicates := (ofGrammar g').duplicates } := by
  have hroot : g'.root? = g.root? := by rw [← head?_rules, h, head?_rules]
  have htokens : (ofGrammar g').tokens = (ofGrammar g).tokens := by
    change distinct ((ofGrammar g').rules.flatMap _) = distinct ((ofGrammar g).rules.flatMap _)
    rw [h]
  have hdangling : danglingUses g' = danglingUses g := by
    funext r
    rw [danglingUses_eq, danglingUses_eq, h]
  have hunresolved : (ofGrammar g').unresolved = (ofGrammar g).unresolved := by
    rw [unresolved_eq, unresolved_eq, h, hdangling]
  have hunused : (ofGrammar g').unusedPrivate = (ofGrammar g).unusedPrivate := by
    rw [unusedPrivate_eq, unusedPrivate_eq, h, hroot]
  calc ofGrammar g' = ⟨(ofGrammar g').rules, (ofGrammar g').duplicates, (ofGrammar g').tokens,
        (ofGrammar g').unresolved, (ofGrammar g').unusedPrivate⟩ := rfl
    _ = { ofGrammar g with duplicates := (ofGrammar g').duplicates } := by
        rw [h, htokens, hunresolved, hunused]

/-- The conditions describe the analysis of a grammar and no other. It is what the passes find, with
all rules kept or listed as duplicates, each kept one under its own name. Whatever else is in the
duplicates makes no difference. -/
theorem eq_ofGrammar_iff_isOf (g : Grammar) :
    (∀ a : Analysis, a = ofGrammar g ↔ a.IsOf g) ∧
      collect g = (byName (ofGrammar g).rules, ofGrammar g) ∧
      ((ofGrammar g).rules.map (·.name)).Nodup ∧
      ((ofGrammar g).rules ++ (ofGrammar g).duplicates).Perm g.rules ∧
      (∀ name, (ofGrammar g).isDefined name = true ↔ ∃ r ∈ g.rules, r.name = name) ∧
      ∀ g' : Grammar, (ofGrammar g').rules = (ofGrammar g).rules →
        ofGrammar g' = { ofGrammar g with duplicates := (ofGrammar g').duplicates } := by
  refine ⟨fun a => ⟨?_, IsOf.unique⟩, collect_eq g, nodup_names g, rules_append_duplicates_perm g,
    defines_rules_iff g, fun g' => ofGrammar_of_rules_eq⟩
  rintro rfl
  exact isOf_ofGrammar g

/-- A token and a reference in the second rule of a name are not counted, and the private rule of
that name is used by nothing but itself. -/
theorem ofGrammar_without_later_rule : ∃ g g' : Grammar, g.rules.length = 3 ∧ g'.rules.length = 2 ∧
    ofGrammar g' = { ofGrammar g with duplicates := [] } ∧ (ofGrammar g).tokens = ["X"] ∧
      (ofGrammar g).unresolved = [("b", "c")] ∧ (ofGrammar g).unusedPrivate = ["b"] := by
  let first : Rule := ⟨"a", false, .token "X", ⟨0, 0⟩⟩
  let second : Rule := ⟨"b", true, .sequence [.reference "b", .reference "c"], ⟨0, 0⟩⟩
  let later : Rule := ⟨"a", false, .sequence [.token "Y", .reference "b"], ⟨0, 0⟩⟩
  let g : Grammar := ⟨"g", [], [first, second, later]⟩
  let g' : Grammar := ⟨"g", [], [first, second]⟩
  have hrules : (ofGrammar g').rules = (ofGrammar g).rules := rfl
  have hsame := (eq_ofGrammar_iff_isOf g).2.2.2.2.2 g' hrules
  exact ⟨g, g', rfl, rfl, hsame, rfl, rfl, rfl⟩

end Analysis

end GrammarForge
