import GrammarForge.Proofs.Store.MemoryHistory

/-!
# Stores in memory that agree on some names

What a request does to a store in memory depends on the store at the requested name only, and
changes it there only. Two stores that agree on some names answer requests of these names alike and
agree afterwards; elsewhere a store agrees with itself before the requests.
-/

namespace GrammarForge

namespace MemoryStore

variable {s t u : MemoryStore} {p : String → Prop} {name other : String} {text : Bytes}

/-- Every created name has a buffer that exists. -/
def IsSound (s : MemoryStore) : Prop := ∀ entry ∈ s.created, entry.2 < s.buffers.length

theorem isSound_new (known refused : List String) : (new known refused).IsSound := by
  intro entry hentry
  cases hentry

theorem mem_assign {buffer : Nat} {created : List (String × Nat)} {entry : String × Nat}
    (h : entry ∈ assign name buffer created) : entry.2 = buffer ∨ entry ∈ created := by
  induction created with
  | nil =>
      rw [assign, List.mem_singleton] at h
      exact .inl (by rw [h])
  | cons first rest ih =>
      rw [assign] at h
      split at h
      · rcases List.mem_cons.1 h with rfl | h
        · exact .inl rfl
        · exact .inr (List.mem_cons_of_mem _ h)
      · rcases List.mem_cons.1 h with rfl | h
        · exact .inr List.mem_cons_self
        · exact (ih h).imp_right (List.mem_cons_of_mem _)

theorem IsSound.create (h : s.IsSound) (name : String) : (s.create name).2.IsSound := by
  unfold MemoryStore.create
  split
  · exact h
  · intro entry hentry
    rw [List.length_append, List.length_singleton]
    rcases mem_assign hentry with hnew | hold
    · exact hnew ▸ Nat.lt_succ_self _
    · exact Nat.lt_succ_of_lt (h entry hold)

theorem IsSound.write (h : s.IsSound) (bytes : Bytes) (buffer : Nat) :
    (s.write bytes buffer).IsSound := by
  intro entry hentry
  rw [MemoryStore.write, List.length_modify]
  exact h entry hentry

theorem IsSound.add (h : s.IsSound) (name : String) (text : Bytes) : (s.add name text).IsSound := by
  intro entry hentry
  rw [MemoryStore.add, List.length_append, List.length_singleton]
  rcases List.mem_append.1 hentry with hold | hnew
  · exact Nat.lt_succ_of_lt (h entry hold)
  · rw [List.mem_singleton.1 hnew]
    exact Nat.lt_succ_self _

theorem IsSound.receive (h : s.IsSound) (name : String) (text : Bytes) :
    (s.receive name text).2.IsSound := by
  unfold MemoryStore.receive
  split_ifs
  · exact h
  · exact h
  · exact h.add name text

/-- The states in which a store can be. -/
inductive Reached : MemoryStore → Prop
  | new (known refused : List String) : Reached (new known refused)
  | create {s : MemoryStore} (name : String) : Reached s → Reached (s.create name).2
  | write {s : MemoryStore} (bytes : Bytes) (buffer : Nat) :
      Reached s → Reached (s.write bytes buffer)
  | takeCreated {s : MemoryStore} : Reached s → Reached (ArtifactStore.takeCreated s).2

theorem Reached.isSound (h : Reached s) : s.IsSound := by
  induction h with
  | new known refused => exact isSound_new known refused
  | create name _ ih => exact ih.create name
  | write bytes buffer _ ih => exact ih.write bytes buffer
  | takeCreated _ ih => exact ih

/-- A name has contents if and only if it was created. -/
theorem IsSound.isSome_contents? (h : s.IsSound) (name : String) :
    (s.contents? name).isSome = (s.created.lookup name).isSome := by
  rw [contents?]
  cases hlookup : s.created.lookup name with
  | none => rfl
  | some buffer =>
      obtain ⟨front, back, hcreated, -⟩ := List.lookup_eq_some_iff.1 hlookup
      have hlt : buffer < s.buffers.length := h (name, buffer) (by simp [hcreated])
      simp [hlt]

theorem IsSound.contains_eq (h : s.IsSound) (name : String) :
    s.contains name = (s.known.contains name || (s.contents? name).isSome) := by
  rw [MemoryStore.contains, h.isSome_contents?]

theorem IsSound.mem_createdNames (h : s.IsSound) :
    name ∈ s.createdNames ↔ (s.contents? name).isSome = true := by
  rw [h.isSome_contents?, createdNames]
  constructor
  · intro hmem
    obtain ⟨entry, hentry, rfl⟩ := List.mem_map.1 hmem
    cases hlookup : s.created.lookup entry.1 with
    | some buffer => rfl
    | none => simpa using List.lookup_eq_none_iff.1 hlookup entry hentry
  · intro hsome
    obtain ⟨buffer, hlookup⟩ := Option.isSome_iff_exists.1 hsome
    obtain ⟨front, back, hcreated, -⟩ := List.lookup_eq_some_iff.1 hlookup
    exact List.mem_map.2 ⟨(name, buffer), by simp [hcreated], rfl⟩

/-- A new name has its text, and all others have what they had. -/
theorem IsSound.contents?_add (h : s.IsSound) (hnew : s.contains name = false) (other : String) :
    (s.add name text).contents? other = if other = name then some text else s.contents? other := by
  rw [contents?, contents?, MemoryStore.add, List.lookup_append]
  by_cases hother : other = name
  · have hlookup : s.created.lookup name = none := by
      simpa using (Bool.or_eq_false_iff.1 hnew).2
    rw [hother, hlookup]
    simp
  · have hbeq : (other == name) = false := by simpa using hother
    rw [if_neg hother, List.lookup_cons, hbeq]
    cases hlookup : s.created.lookup other with
    | none => rfl
    | some buffer =>
        obtain ⟨front, back, hcreated, -⟩ := List.lookup_eq_some_iff.1 hlookup
        have hlt : buffer < s.buffers.length := h (other, buffer) (by simp [hcreated])
        exact List.getElem?_append_left hlt

/-- The stores know and refuse the same names, and have the same contents at the names of `p`. -/
structure AgreeOn (p : String → Prop) (s t : MemoryStore) : Prop where
  sound : s.IsSound
  sound' : t.IsSound
  known : s.known = t.known
  refused : s.refused = t.refused
  contents : ∀ name, p name → s.contents? name = t.contents? name

theorem AgreeOn.refl (h : s.IsSound) : AgreeOn p s s := ⟨h, h, rfl, rfl, fun _ _ => rfl⟩

theorem AgreeOn.symm (h : AgreeOn p s t) : AgreeOn p t s :=
  ⟨h.sound', h.sound, h.known.symm, h.refused.symm, fun name hname => (h.contents name hname).symm⟩

theorem AgreeOn.trans (h : AgreeOn p s t) (k : AgreeOn p t u) : AgreeOn p s u :=
  ⟨h.sound, k.sound', h.known.trans k.known, h.refused.trans k.refused,
    fun name hname => (h.contents name hname).trans (k.contents name hname)⟩

theorem AgreeOn.mono {q : String → Prop} (h : AgreeOn p s t) (hq : ∀ name, q name → p name) :
    AgreeOn q s t := { h with contents := fun name hname => h.contents name (hq name hname) }

theorem AgreeOn.contains_eq (h : AgreeOn p s t) (hname : p name) :
    s.contains name = t.contains name := by
  rw [h.sound.contains_eq, h.sound'.contains_eq, h.known, h.contents name hname]

/-- Requests of a name on which stores agree have the same results and leave them in agreement. -/
theorem AgreeOn.receive (h : AgreeOn p s t) (hname : p name) (text : Bytes) :
    (s.receive name text).1 = (t.receive name text).1 ∧
      AgreeOn p (s.receive name text).2 (t.receive name text).2 := by
  cases hcontains : t.contains name with
  | true =>
      have hcontains' := (h.contains_eq hname).trans hcontains
      rw [MemoryStore.receive, MemoryStore.receive, if_pos hcontains, if_pos hcontains']
      exact ⟨rfl, h⟩
  | false =>
      have hcontains' := (h.contains_eq hname).trans hcontains
      rw [MemoryStore.receive, MemoryStore.receive, hcontains, hcontains', h.refused,
        if_neg Bool.false_ne_true, if_neg Bool.false_ne_true]
      split_ifs
      · exact ⟨rfl, h⟩
      · refine ⟨rfl, h.sound.add name text, h.sound'.add name text, h.known, h.refused,
          fun other hother => ?_⟩
        rw [h.sound.contents?_add hcontains', h.sound'.contents?_add hcontains,
          h.contents other hother]

/-- A request leaves the other names alone. -/
theorem IsSound.agreeOn_receive (h : s.IsSound) (name : String) (text : Bytes) :
    AgreeOn (· ≠ name) s (s.receive name text).2 := by
  unfold MemoryStore.receive
  split_ifs with hcontains
  · exact .refl h
  · exact .refl h
  · refine ⟨h, h.add name text, rfl, rfl, fun other hother => ?_⟩
    rw [h.contents?_add (eq_false_of_ne_true hcontains), if_neg hother]

end MemoryStore

end GrammarForge
