import GrammarForge.Text.Split

/-!
# Parts of a text

Cutting a text at a character is the inverse of putting the character between parts, for parts that
do not contain it.
-/

namespace GrammarForge.Text

variable {separator : Char}

theorem splitChars_of_notMem {part : List Char} (h : separator ∉ part) :
    splitChars separator part = (part, []) := by
  induction part with
  | nil => rfl
  | cons c rest ih =>
      obtain ⟨hc, hrest⟩ : separator ≠ c ∧ separator ∉ rest := by simpa using h
      simp [splitChars, Ne.symm hc, ih hrest]

/-- Nothing is known about what follows a separator, so it is cut on its own. -/
theorem splitChars_append {part : List Char} (h : separator ∉ part) (rest : List Char) :
    splitChars separator (part ++ separator :: rest) =
      (part, (splitChars separator rest).1 :: (splitChars separator rest).2) := by
  induction part with
  | nil => simp [splitChars]
  | cons c part ih =>
      obtain ⟨hc, hpart⟩ : separator ≠ c ∧ separator ∉ part := by simpa using h
      simp [splitChars, Ne.symm hc, ih hpart]

theorem notMem_splitChars (separator : Char) (s : List Char) :
    separator ∉ (splitChars separator s).1 ∧
      ∀ part ∈ (splitChars separator s).2, separator ∉ part := by
  induction s with
  | nil => simp [splitChars]
  | cons c rest ih =>
      by_cases hc : c = separator
      · simpa [splitChars, hc] using ih
      · simpa [splitChars, hc, Ne.symm hc] using ih

theorem splitAtChar_ne_nil (s : String) : splitAtChar separator s ≠ [] := List.cons_ne_nil _ _

theorem notMem_of_mem_splitAtChar {s part : String} (h : part ∈ splitAtChar separator s) :
    separator ∉ part.toList := by
  obtain ⟨hfirst, hrest⟩ := notMem_splitChars separator s.toList
  rcases List.mem_cons.1 h with rfl | hmem
  · simpa using hfirst
  · obtain ⟨chars, hchars, rfl⟩ := List.mem_map.1 hmem
    simpa using hrest chars hchars

/-- The characters of parts with a separator between them. -/
theorem toList_intercalate_cons (separator : Char) (part : String) (rest : List String) :
    (separator.toString.intercalate (part :: rest)).toList =
      part.toList ++ rest.flatMap (fun next => separator :: next.toList) := by
  induction rest generalizing part with
  | nil => simp
  | cons next rest ih =>
      have hnext := ih next
      rw [String.toList_intercalate] at hnext ⊢
      simp only [List.map_cons, List.intercalate_cons_cons, List.flatMap_cons] at hnext ⊢
      rw [hnext]
      simp

/-- There is nothing between the separators but the parts. -/
theorem mem_intercalate {c : Char} {parts : List String} (hc : c ≠ separator) :
    c ∈ (separator.toString.intercalate parts).toList ↔ ∃ part ∈ parts, c ∈ part.toList := by
  cases parts with
  | nil => simp
  | cons first rest =>
      rw [toList_intercalate_cons]
      simp [hc]

theorem splitAtChar_intercalate {parts : List String} (hne : parts ≠ [])
    (h : ∀ part ∈ parts, separator ∉ part.toList) :
    splitAtChar separator (separator.toString.intercalate parts) = parts := by
  obtain ⟨first, rest, rfl⟩ := List.exists_cons_of_ne_nil hne
  clear hne
  have hsplit : splitChars separator
      (first.toList ++ rest.flatMap (fun next => separator :: next.toList)) =
        (first.toList, rest.map String.toList) := by
    induction rest generalizing first with
    | nil => simpa using splitChars_of_notMem (h first List.mem_cons_self)
    | cons next rest ih =>
        rw [List.flatMap_cons, List.cons_append, splitChars_append (h first List.mem_cons_self),
          ih next (fun part hpart => h part (List.mem_cons_of_mem _ hpart)), List.map_cons]
  rw [splitAtChar, toList_intercalate_cons, hsplit]
  simp

/-- A separator ends a part wherever it stands. -/
theorem splitAtChar_append (s rest : String) :
    splitAtChar separator (s ++ separator.toString ++ rest) =
      splitAtChar separator s ++ splitAtChar separator rest := by
  have hsplit : ∀ chars more : List Char, splitChars separator (chars ++ separator :: more) =
      ((splitChars separator chars).1, (splitChars separator chars).2 ++
        (splitChars separator more).1 :: (splitChars separator more).2) := by
    intro chars more
    induction chars with
    | nil => simp [splitChars]
    | cons c chars ih => by_cases hc : c = separator <;> simp [splitChars, hc, ih]
  have hchars : (s ++ separator.toString ++ rest).toList =
      s.toList ++ separator :: rest.toList := by simp
  rw [splitAtChar, hchars, hsplit]
  simp [splitAtChar]

theorem intercalate_splitAtChar (s : String) :
    separator.toString.intercalate (splitAtChar separator s) = s := by
  apply String.toList_inj.1
  rw [splitAtChar, toList_intercalate_cons, List.flatMap_map, String.toList_ofList]
  simp only [String.toList_ofList]
  exact flatten_intersperse_splitChars separator s.toList

end GrammarForge.Text
