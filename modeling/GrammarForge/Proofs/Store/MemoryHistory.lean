import GrammarForge.Proofs.Generation.KeptRules
import GrammarForge.Store.Memory
import Mathlib.Data.List.Induction

/-!
# Stores in memory and their histories

What a store in memory holds is settled by the requests it was given, each a name and a text: every
name once, in the order of first requests, with the text of the first one. Names that were known
from the start and names that are refused leave no trace.
-/

namespace GrammarForge

section Keys

variable {α : Type} [DecidableEq α]

theorem isSome_lookup_zipIdx (keys : List α) (key : α) (k : Nat) :
    ((keys.zipIdx k).lookup key).isSome = decide (key ∈ keys) := by
  induction keys generalizing k with
  | nil => simp
  | cons a rest ih =>
      rw [List.zipIdx_cons, List.lookup_cons]
      by_cases h : key = a
      · simp [h]
      · have hbeq : (key == a) = false := by simpa using h
        simp [hbeq, h, ih]

/-- What stands beside the first occurrence of a key. -/
theorem getElem?_lookup_zipIdx {β : Type} (keys : List α) (f : α → β) (key : α) (before : List β) :
    ((keys.zipIdx before.length).lookup key).bind (fun i => (before ++ keys.map f)[i]?) =
      if key ∈ keys then some (f key) else none := by
  induction keys generalizing before with
  | nil => simp
  | cons a rest ih =>
      rw [List.zipIdx_cons, List.lookup_cons]
      by_cases h : key = a
      · simp [h]
      · have hbeq : (key == a) = false := by simpa using h
        have hrest := ih (before ++ [f a])
        rw [List.length_append, List.length_singleton, List.append_assoc] at hrest
        simp only [hbeq, List.mem_cons, h, false_or]
        exact hrest

theorem lookup_eq_none_of_notMem {β : Type} {entries : List (α × β)} {key : α}
    (h : key ∉ entries.map (·.1)) : entries.lookup key = none := by
  apply List.lookup_eq_none_iff.2
  intro entry hentry
  have hne : key ≠ entry.1 := fun heq => h (heq ▸ List.mem_map_of_mem hentry)
  simpa using hne

end Keys

namespace MemoryStore

/-- The store with another artifact in it. -/
def add (name : String) (text : Bytes) (s : MemoryStore) : MemoryStore :=
  { s with
    buffers := s.buffers ++ [text]
    created := s.created ++ [(name, s.buffers.length)]
    fresh := s.fresh ++ [name] }

/-- Why a name cannot be created. -/
def refusal (name : String) : SystemError := ⟨.permissionDenied, s!"cannot create {name}"⟩

/-- Request a name and write a text. -/
def receive (name : String) (text : Bytes) (s : MemoryStore) :
    Except SystemError Unit × MemoryStore :=
  if s.contains name then (.ok (), s)
  else if s.refused.contains name then (.error (refusal name), s)
  else (.ok (), s.add name text)

theorem assign_of_lookup_none {name : String} {buffer : Nat} {created : List (String × Nat)}
    (h : created.lookup name = none) :
    assign name buffer created = created ++ [(name, buffer)] := by
  induction created with
  | nil => rfl
  | cons entry rest ih =>
      obtain ⟨n, b⟩ := entry
      rw [List.lookup_cons] at h
      by_cases hn : name = n
      · simp [hn] at h
      · have hbeq : (name == n) = false := by simpa using hn
        rw [hbeq] at h
        rw [assign, if_neg (Ne.symm hn), ih h, List.cons_append]

/-- A name that is created and written to once. -/
theorem write_create {name : String} {s : MemoryStore} (text : Bytes)
    (hcontains : s.contains name = false) (hrefused : s.refused.contains name = false) :
    ∃ buffer store, s.create name = (.ok buffer, store) ∧
      store.write text buffer = s.add name text := by
  refine ⟨s.buffers.length, _, by rw [create, if_neg (ne_true_of_eq_false hrefused)], ?_⟩
  have hlookup : s.created.lookup name = none := by
    have hcreated := (Bool.or_eq_false_iff.1 hcontains).2
    simpa using hcreated
  have hbuffers : (s.buffers ++ [[]]).modify s.buffers.length (· ++ text) =
      s.buffers ++ [text] := by
    rw [List.modify_eq_take_cons_drop (by simp)]
    simp
  rw [write, add, assign_of_lookup_none hlookup, hbuffers]

/-- Which names reach a store. -/
def admits (known refused : List String) (name : String) : Bool :=
  !known.contains name && !refused.contains name

/-- The names that are created on these requests. -/
def firstNames (known refused : List String) (history : List (String × Bytes)) : List String :=
  (distinct (history.map (·.1))).filter (admits known refused)

/-- The text of the first request of a name. -/
def firstText (history : List (String × Bytes)) (name : String) : Bytes :=
  (history.lookup name).getD []

/-- The store that has had these requests. -/
def ofHistory (known refused : List String) (history : List (String × Bytes)) : MemoryStore :=
  let names := firstNames known refused history
  ⟨known, refused, names.map (firstText history), names.zipIdx, names⟩

variable {known refused : List String} {history : List (String × Bytes)}

theorem ofHistory_nil : ofHistory known refused [] = new known refused := rfl

@[simp] theorem createdNames_ofHistory :
    (ofHistory known refused history).createdNames = firstNames known refused history := by
  simp [createdNames, ofHistory]

theorem contents?_ofHistory (name : String) :
    (ofHistory known refused history).contents? name =
      if name ∈ firstNames known refused history then some (firstText history name) else none :=
  getElem?_lookup_zipIdx _ (firstText history) name []

theorem mem_firstNames {name : String} : name ∈ firstNames known refused history ↔
    name ∈ history.map (·.1) ∧ name ∉ known ∧ name ∉ refused := by
  simp [firstNames, admits]

theorem contains_ofHistory (name : String) :
    (ofHistory known refused history).contains name =
      (known.contains name || decide (name ∈ firstNames known refused history)) := by
  rw [contains, ofHistory, isSome_lookup_zipIdx]

theorem firstNames_concat (name : String) (text : Bytes) :
    firstNames known refused (history ++ [(name, text)]) =
      if name ∈ history.map (·.1) ∨ admits known refused name = false then
        firstNames known refused history
      else firstNames known refused history ++ [name] := by
  unfold firstNames
  rw [List.map_append, List.map_singleton, distinct_concat]
  by_cases hmem : name ∈ history.map (·.1)
  · rw [if_pos hmem, if_pos (.inl hmem)]
  · rw [if_neg hmem, List.filter_append, List.filter_singleton]
    cases hadmits : admits known refused name with
    | false => rw [if_pos (.inr rfl), Bool.cond_false, List.append_nil]
    | true => rw [if_neg (by simpa using hmem), Bool.cond_true]

theorem firstNames_append_prefix (more : List (String × Bytes)) :
    firstNames known refused history <+: firstNames known refused (history ++ more) := by
  induction more using List.reverseRecOn with
  | nil => simp only [List.append_nil, List.prefix_rfl]
  | append_singleton more entry ih =>
      apply ih.trans
      rw [← List.append_assoc, firstNames_concat]
      split
      · exact List.prefix_rfl
      · exact List.prefix_append ..

theorem firstText_append {name : String} (h : name ∈ history.map (·.1))
    (more : List (String × Bytes)) : firstText (history ++ more) name = firstText history name := by
  obtain ⟨text, htext⟩ : ∃ text, history.lookup name = some text := by
    apply Option.ne_none_iff_exists'.1
    intro hnone
    obtain ⟨entry, hentry, rfl⟩ := List.mem_map.1 h
    have hne := List.lookup_eq_none_iff.1 hnone entry hentry
    simp at hne
  simp [firstText, List.lookup_append, htext]

/-- A request of a name that was there before changes nothing. -/
theorem ofHistory_concat_of_mem {name : String} {text : Bytes}
    (h : name ∈ history.map (·.1) ∨ admits known refused name = false) :
    ofHistory known refused (history ++ [(name, text)]) = ofHistory known refused history := by
  have htexts : ∀ n ∈ firstNames known refused history,
      firstText (history ++ [(name, text)]) n = firstText history n :=
    fun n hn => firstText_append (mem_firstNames.1 hn).1 _
  simp only [ofHistory, firstNames_concat, if_pos h, List.map_congr_left htexts]

theorem ofHistory_concat_of_notMem {name : String} {text : Bytes} (h : name ∉ history.map (·.1))
    (hadmits : admits known refused name = true) :
    ofHistory known refused (history ++ [(name, text)]) =
      (ofHistory known refused history).add name text := by
  have hnames : firstNames known refused (history ++ [(name, text)]) =
      firstNames known refused history ++ [name] := by
    rw [firstNames_concat, if_neg (by simp [hadmits, h])]
  have htexts : ∀ n ∈ firstNames known refused history,
      firstText (history ++ [(name, text)]) n = firstText history n :=
    fun n hn => firstText_append (mem_firstNames.1 hn).1 _
  have htext : firstText (history ++ [(name, text)]) name = text := by
    simp [firstText, List.lookup_append, lookup_eq_none_of_notMem h]
  simp [ofHistory, add, hnames, List.map_congr_left htexts, htext, List.zipIdx_append]

/-- A store goes on from its history by one request. -/
theorem receive_ofHistory (name : String) (text : Bytes) :
    (ofHistory known refused history).receive name text =
      (if name ∈ known ∨ name ∉ refused then .ok () else .error (refusal name),
        ofHistory known refused (history ++ [(name, text)])) := by
  have hrefused : (ofHistory known refused history).refused = refused := rfl
  simp only [receive, contains_ofHistory, hrefused, Bool.or_eq_true, decide_eq_true_eq,
    List.contains_iff_mem]
  by_cases hknown : name ∈ known
  · rw [ofHistory_concat_of_mem (.inr (by simp [admits, hknown]))]
    simp [hknown]
  · by_cases hmem : name ∈ firstNames known refused history
    · have hrequested := mem_firstNames.1 hmem
      rw [ofHistory_concat_of_mem (.inl hrequested.1)]
      simp [hmem, hrequested.2.2]
    · by_cases hin : name ∈ refused
      · rw [ofHistory_concat_of_mem (.inr (by simp [admits, hin]))]
        simp [hknown, hmem, hin]
      · have hnew : name ∉ history.map (·.1) := fun h =>
          hmem (mem_firstNames.2 ⟨h, hknown, hin⟩)
        rw [ofHistory_concat_of_notMem hnew (by simp [admits, hknown, hin])]
        simp [hknown, hmem, hin]

end MemoryStore

end GrammarForge
