import GrammarForge.Proofs.Code.Identifiers

/-!
# Word breaks in snake case

In snake case every character of an ASCII text is respelled: letters go to lower case, and hyphens
become underscores. All else that happens is that underscores are put in where words start. Which of
its underscores were put in shows in the result itself: it still has the whole of the respelled text
without them. Each stands alone between two letters or digits, and none is put into a text that is
in snake case already.
-/

namespace GrammarForge.Text

/-- What becomes of a character of the text. -/
def respell (c : Char) : Char := if c = '-' then '_' else c.toLower

/-- A character that may stand in snake case. -/
structure IsSettled (c : Char) : Prop where
  isAscii : isAscii c = true
  noUpper : c.isUpper = false
  ne_hyphen : c ≠ '-'

/-- A text, and the same text with underscores put into it. -/
inductive Underscored : List Char → List Char → Prop
  | nil : Underscored [] []
  | keep (c : Char) {text result : List Char} :
      Underscored text result → Underscored (c :: text) (c :: result)
  | insert {text result : List Char} :
      Underscored text result → Underscored text ('_' :: result)

/-- A word starts between `front` and `back`: at a capital after a lower case letter or a digit, and
at the last capital of a run that a lower case letter follows. -/
def IsWordStart (front back : List Char) : Prop :=
  ∃ p c rest, front.getLast? = some p ∧ back = c :: rest ∧ c.isUpper = true ∧
    (p.isLower = true ∨ p.isDigit = true ∨
      p.isUpper = true ∧ ∃ next ∈ rest.head?, next.isLower = true)

/-! ## Underscores in a text -/

namespace Underscored

variable {text result : List Char} {c d : Char}

theorem refl (text : List Char) : Underscored text text := by
  induction text with
  | nil => exact .nil
  | cons c text ih => exact .keep c ih

theorem append {text' result' : List Char} (h : Underscored text result)
    (h' : Underscored text' result') : Underscored (text ++ text') (result ++ result') := by
  induction h with
  | nil => exact h'
  | keep c _ ih => exact .keep c ih
  | insert _ ih => exact .insert ih

/-- Where the result is cut, the text can be cut as well. -/
theorem exists_append {before after : List Char} (h : Underscored text (before ++ after)) :
    ∃ front back, text = front ++ back ∧ Underscored front before ∧ Underscored back after := by
  induction before generalizing text with
  | nil => exact ⟨[], text, rfl, .nil, h⟩
  | cons d before ih =>
      cases h with
      | keep _ h =>
          obtain ⟨front, back, rfl, hfront, hback⟩ := ih h
          exact ⟨d :: front, back, rfl, .keep d hfront, hback⟩
      | insert h =>
          obtain ⟨front, back, rfl, hfront, hback⟩ := ih h
          exact ⟨front, back, rfl, .insert hfront, hback⟩

theorem eq_or_mem (h : Underscored text result) (hd : d ∈ result) : d = '_' ∨ d ∈ text := by
  induction h with
  | nil => exact .inr hd
  | keep c _ ih =>
      rcases List.mem_cons.1 hd with rfl | hd
      · exact .inr List.mem_cons_self
      · exact (ih hd).imp_right (List.mem_cons_of_mem c)
  | insert _ ih =>
      rcases List.mem_cons.1 hd with rfl | hd
      · exact .inl rfl
      · exact ih hd

theorem filter_eq (h : Underscored text result) :
    result.filter (· ≠ '_') = text.filter (· ≠ '_') := by
  induction h with
  | nil => rfl
  | keep c _ ih => simp only [List.filter_cons, ih]
  | insert _ ih => simpa using ih

theorem of_cons (h : Underscored (c :: text) (d :: result)) :
    c = d ∧ Underscored text result ∨ d = '_' ∧ Underscored (c :: text) result := by
  cases h with
  | keep _ h => exact .inl ⟨rfl, h⟩
  | insert h => exact .inr ⟨rfl, h⟩

/-- An underscore that is not taken for one of the text is taken for one that was put in. -/
theorem drop_underscore (h : Underscored ('_' :: text) result) : Underscored text result := by
  induction result with
  | nil => cases h
  | cons d result ih =>
      rcases h.of_cons with ⟨rfl, hrest⟩ | ⟨rfl, hrest⟩
      · exact .insert hrest
      · exact .insert (ih hrest)

theorem tail (h : Underscored (c :: text) (c :: result)) : Underscored text result := by
  rcases h.of_cons with ⟨-, hrest⟩ | ⟨rfl, hrest⟩
  · exact hrest
  · exact hrest.drop_underscore

/-- Underscores for no text are a run of underscores. -/
theorem exists_underscore (h : Underscored [] result) (after : List Char) :
    ∃ rest, result ++ '_' :: after = '_' :: rest := by
  cases h with
  | nil => exact ⟨after, rfl⟩
  | insert _ => exact ⟨_, rfl⟩

/-- The first character of the text is the first of the result, unless one was put in before it. -/
theorem exists_cons {before after : List Char} (h : Underscored (c :: text) before)
    (hresult : c :: result = before ++ after) : ∃ before', before = c :: before' ∧
      Underscored text before' ∧ result = before' ++ after := by
  cases before with
  | nil => cases h
  | cons d before =>
      obtain ⟨rfl, hrest⟩ := List.cons.inj hresult
      exact ⟨before, rfl, h.tail, hrest⟩

end Underscored

/-! ## Characters -/

section

variable {c : Char} (h : isAscii c = true)

include h

theorem isUpper_of_isAscii : isUpper c = c.isUpper := if_pos h

theorem isLower_of_isAscii : isLower c = c.isLower := if_pos h

theorem isSettled_respell : IsSettled (respell c) := by
  have hall {d : Char} := forall_ascii (c := d) (fun c => isAscii (respell c) = true ∧
    (respell c).isUpper = false ∧ respell c ≠ '-') (by decide)
  obtain ⟨hascii, hupper, hhyphen⟩ := hall (of_decide_eq_true h)
  exact ⟨hascii, hupper, hhyphen⟩

theorem respell_eq_underscore_iff : respell c = '_' ↔ isWordBreak c.toLower = true := by
  have hall {d : Char} := forall_ascii (c := d)
    (fun c => respell c = '_' ↔ isWordBreak c.toLower = true) (by decide)
  exact hall (of_decide_eq_true h)

theorem respell_ne_underscore (halnum : c.isAlphanum = true) : respell c ≠ '_' := by
  have hall {d : Char} := forall_ascii (c := d)
    (fun c => c.isAlphanum = true → respell c ≠ '_') (by decide)
  exact hall (of_decide_eq_true h) halnum

end

theorem isSettled_of_isIdentRest {c : Char} (h : isIdentRest c = true)
    (hupper : c.isUpper = false) : IsSettled c :=
  ⟨decide_eq_true (isAscii_of_isIdentRest h), hupper, ne_hyphen_of_isIdentRest h⟩

theorem respell_eq_toLower {c : Char} (h : c ≠ '-') : respell c = c.toLower := if_neg h

/-- A word starts at a capital. -/
theorem respell_ne_of_startsWord {prev : Option Char} {c : Char} {next : Option Char}
    (hc : isAscii c = true) (h : startsWord prev c next = true) : respell c ≠ '_' := by
  cases prev with
  | none => cases h
  | some p =>
      have hupper : c.isUpper = true := isUpper_of_isAscii hc ▸ (Bool.and_eq_true_iff.1 h).1
      exact respell_ne_underscore hc (by simp [Char.isAlphanum, Char.isAlpha, hupper])

/-- A word starts behind a letter or a digit. -/
theorem respell_ne_before_startsWord {p c : Char} {next : Option Char} (hp : isAscii p = true)
    (h : startsWord (some p) c next = true) : respell p ≠ '_' := by
  simp only [startsWord, isUpper_of_isAscii hp, isLower_of_isAscii hp, Bool.and_eq_true,
    Bool.or_eq_true] at h
  refine respell_ne_underscore hp ?_
  simp only [Char.isAlphanum, Char.isAlpha, Bool.or_eq_true]
  tauto

theorem isWordStart_cons_iff {front rest : List Char} {c : Char}
    (hfront : AllAscii front) (hback : AllAscii (c :: rest)) :
    IsWordStart front (c :: rest) ↔ startsWord front.getLast? c rest.head? = true := by
  cases hlast : front.getLast? with
  | none => simp [IsWordStart, startsWord, hlast]
  | some p =>
      have hp := hfront p (List.mem_of_getLast? hlast)
      rw [allAscii_cons] at hback
      have hnext : rest.head?.any isLower = true ↔ ∃ next ∈ rest.head?, next.isLower = true := by
        cases rest with
        | nil => simp
        | cons d rest => simp [isLower_of_isAscii ((allAscii_cons d rest).1 hback.2).1]
      simp only [startsWord, isUpper_of_isAscii hp, isUpper_of_isAscii hback.1,
        isLower_of_isAscii hp, Bool.and_eq_true, Bool.or_eq_true, hnext, or_assoc]
      constructor
      · rintro ⟨_, _, _, hp, hc, hrule⟩
        obtain rfl := Option.some.inj (hlast.symm.trans hp)
        obtain ⟨rfl, rfl⟩ := List.cons.inj hc
        exact hrule
      · intro hrule
        exact ⟨p, c, rest, hlast, rfl, hrule⟩

/-! ## Snake case character by character -/

theorem snakeChars_cons {c : Char} (h : isAscii c = true) (prev : Option Char)
    (rest : List Char) : snakeChars prev (c :: rest) =
      (if startsWord prev c rest.head? then ['_'] else []) ++
        respell c :: snakeChars (some c) rest := by
  by_cases hhyphen : c = '-'
  · subst hhyphen
    have hstarts : startsWord prev '-' rest.head? = false := by
      have hupper : isUpper '-' = false := by decide
      cases prev <;> simp [startsWord, hupper]
    rw [hstarts, snakeChars, if_pos rfl]
    rfl
  · rw [snakeChars_cons_of_ne_hyphen h hhyphen, respell_eq_toLower hhyphen]

/-- Snake case keeps the whole of the respelled text. -/
theorem underscored_snakeChars {cs : List Char} (h : AllAscii cs) (prev : Option Char) :
    Underscored (cs.map respell) (snakeChars prev cs) := by
  induction cs generalizing prev with
  | nil => exact .nil
  | cons c cs ih =>
      rw [allAscii_cons] at h
      rw [snakeChars_cons h.1, List.map_cons]
      have hrest := ih h.2 (some c)
      split
      · exact .insert (.keep _ hrest)
      · exact .keep _ hrest

/-- No underscore is put in behind a word break, so that there is none to take for that break. -/
theorem not_underscored_of_break {p : Char} {cs : List Char} (hp : isAscii p = true)
    (hbreak : respell p = '_') (h : AllAscii cs) :
    ¬ Underscored ('_' :: cs.map respell) (snakeChars (some p) cs) := by
  induction cs generalizing p with
  | nil =>
      intro hput
      cases hput
  | cons c cs ih =>
      rw [allAscii_cons] at h
      have hstarts : startsWord (some p) c cs.head? = false := by
        by_contra hstarts
        exact respell_ne_before_startsWord hp (Bool.not_eq_false _ ▸ hstarts) hbreak
      rw [snakeChars_cons h.1, hstarts, List.map_cons]
      intro hput
      -- Whether or not the break is taken for the next character, that one is a break as well.
      obtain ⟨hc, hrest⟩ : respell c = '_' ∧
          Underscored (respell c :: cs.map respell) (snakeChars (some c) cs) := by
        rcases hput.of_cons with ⟨hc, hrest⟩ | ⟨hc, hrest⟩
        · exact ⟨hc.symm, hrest⟩
        · exact ⟨hc, hrest.drop_underscore⟩
      exact ih h.1 hc h.2 (hc ▸ hrest)

/-! ## Underscores that are put in -/

/-- An underscore in front is put in if the rest still has the whole of the respelled text. -/
theorem startsWord_of_put_in {prev : Option Char} {cs result : List Char} (h : AllAscii cs)
    (hresult : snakeChars prev cs = '_' :: result) (hput : Underscored (cs.map respell) result) :
    ∃ c rest, cs = c :: rest ∧ startsWord prev c rest.head? = true ∧
      result = respell c :: snakeChars (some c) rest := by
  cases cs with
  | nil => cases hresult
  | cons c rest =>
      rw [allAscii_cons] at h
      rw [snakeChars_cons h.1] at hresult
      cases hstarts : startsWord prev c rest.head? with
      | true =>
          rw [hstarts] at hresult
          exact ⟨c, rest, rfl, hstarts, (List.cons.inj hresult).2.symm⟩
      | false =>
          rw [hstarts] at hresult
          obtain ⟨hc, rfl⟩ := List.cons.inj hresult
          rw [List.map_cons, hc] at hput
          exact absurd hput (not_underscored_of_break h.1 hc h.2)

theorem getLast?_cons_or (c : Char) (cs : List Char) (prev : Option Char) :
    (c :: cs).getLast?.or prev = cs.getLast?.or (some c) := by
  simp [List.getLast?_cons]

/-- In whatever way a part of the result is read as a text with underscores put in, its first
character stands where snake case puts it. -/
theorem exists_first {prev : Option Char} {c : Char} {cs text before after : List Char}
    (hc : isAscii c = true) (hresult : snakeChars prev (c :: cs) = before ++ after)
    (hbefore : Underscored (respell c :: text) before) : ∃ before',
      before = (if startsWord prev c cs.head? then ['_'] else []) ++ respell c :: before' ∧
        Underscored text before' ∧ snakeChars (some c) cs = before' ++ after := by
  rw [snakeChars_cons hc] at hresult
  cases hstarts : startsWord prev c cs.head? with
  | true =>
      rw [hstarts] at hresult
      cases before with
      | nil => cases hbefore
      | cons d before =>
          obtain ⟨rfl, hrest⟩ := List.cons.inj hresult
          obtain ⟨-, hkept⟩ := hbefore.of_cons.resolve_left fun hsame =>
            respell_ne_of_startsWord hc hstarts hsame.1
          obtain ⟨before', rfl, hbefore', htail⟩ := hkept.exists_cons hrest
          exact ⟨before', rfl, hbefore', htail⟩
  | false =>
      rw [hstarts] at hresult
      obtain ⟨before', rfl, hbefore', htail⟩ := hbefore.exists_cons hresult
      exact ⟨before', rfl, hbefore', htail⟩

/-- What stands around an underscore that was put in: the induction is on the text in front of it,
at the end of which a word has to start. -/
theorem around_put_in {prev : Option Char} {front back before after : List Char}
    (h : AllAscii (front ++ back))
    (hresult : snakeChars prev (front ++ back) = before ++ '_' :: after)
    (hbefore : Underscored (front.map respell) before)
    (hafter : Underscored (back.map respell) after) :
    before.getLast? = (front.map respell).getLast? ∧ ∃ c rest, back = c :: rest ∧
      startsWord (front.getLast?.or prev) c rest.head? = true ∧
        after = respell c :: snakeChars (some c) rest := by
  induction front generalizing prev before with
  | nil =>
      cases before with
      | nil => exact ⟨rfl, startsWord_of_put_in h hresult hafter⟩
      | cons d before =>
          -- A second underscore would follow, where there is the capital that starts the word.
          obtain ⟨rfl, hrun⟩ : d = '_' ∧ Underscored [] before := by
            cases hbefore with
            | insert hrun => exact ⟨rfl, hrun⟩
          obtain ⟨c, rest, rfl, hstarts, hrest⟩ :=
            startsWord_of_put_in h hresult (hrun.append (.insert hafter))
          obtain ⟨run, hunderscore⟩ := hrun.exists_underscore after
          have hc : respell c = '_' := (List.cons.inj (hrest.symm.trans hunderscore)).1
          exact absurd hc (respell_ne_of_startsWord ((allAscii_cons c rest).1 h).1 hstarts)
  | cons d front ih =>
      rw [List.cons_append, allAscii_cons] at h
      obtain ⟨before', rfl, hbefore', hrest⟩ := exists_first h.1 hresult hbefore
      obtain ⟨hlast, hword⟩ := ih h.2 hrest hbefore'
      refine ⟨?_, getLast?_cons_or d front prev ▸ hword⟩
      rw [List.getLast?_append, List.getLast?_cons, hlast, List.map_cons, List.getLast?_cons]
      rfl

/-- Where a word starts, an underscore is put in. -/
theorem exists_put_in {prev : Option Char} {front rest : List Char} {c : Char}
    (h : AllAscii (front ++ c :: rest))
    (hstarts : startsWord (front.getLast?.or prev) c rest.head? = true) :
    ∃ before, snakeChars prev (front ++ c :: rest) =
      before ++ '_' :: respell c :: snakeChars (some c) rest ∧
        Underscored (front.map respell) before := by
  induction front generalizing prev with
  | nil =>
      rw [List.nil_append, allAscii_cons] at h
      refine ⟨[], ?_, .nil⟩
      rw [List.nil_append, snakeChars_cons h.1, if_pos (by simpa using hstarts)]
      rfl
  | cons d front ih =>
      rw [List.cons_append, allAscii_cons] at h
      rw [getLast?_cons_or] at hstarts
      obtain ⟨before, hresult, hbefore⟩ := ih h.2 hstarts
      rw [List.cons_append, snakeChars_cons h.1, hresult, List.map_cons]
      split
      · exact ⟨'_' :: respell d :: before, rfl, .insert (.keep _ hbefore)⟩
      · exact ⟨respell d :: before, rfl, .keep _ hbefore⟩

/-! ## Snake case as a whole -/

theorem isSettled_of_mem_snakeChars {prev : Option Char} {cs : List Char} (h : AllAscii cs) :
    ∀ d ∈ snakeChars prev cs, IsSettled d := by
  intro d hd
  rcases (underscored_snakeChars h prev).eq_or_mem hd with rfl | hd
  · exact ⟨by decide, by decide, by decide⟩
  · obtain ⟨c, hc, rfl⟩ := List.mem_map.1 hd
    exact isSettled_respell (h c hc)

/-- There are no capitals in snake case. -/
theorem noUpper_snakeChars {cs : List Char} (h : AllAscii cs) (prev : Option Char) :
    ∀ c ∈ snakeChars prev cs, c.isUpper = false :=
  fun c hc => (isSettled_of_mem_snakeChars h c hc).noUpper

/-- Snake case stays as it is. -/
theorem snakeChars_eq_self {cs : List Char} (h : ∀ c ∈ cs, IsSettled c) (prev : Option Char) :
    snakeChars prev cs = cs := by
  induction cs generalizing prev with
  | nil => rfl
  | cons c cs ih =>
      obtain ⟨⟨hascii, hupper, hhyphen⟩, hrest⟩ := List.forall_mem_cons.1 h
      have hstarts : startsWord prev c cs.head? = false := by
        cases prev <;> simp [startsWord, isUpper_of_isAscii hascii, hupper]
      have hc : respell c = c := by
        rw [respell_eq_toLower hhyphen, Char.toLower_eq_of_not_isUpper (by simp [hupper])]
      rw [snakeChars_cons hascii, hstarts, hc, ih hrest]
      rfl

/-- Without the underscores, a respelled text is the text in lower case without its word breaks. -/
theorem filter_map_respell {cs : List Char} (h : AllAscii cs) :
    (cs.map respell).filter (· ≠ '_') =
      (cs.map Char.toLower).filter (fun c => !isWordBreak c) := by
  induction cs with
  | nil => rfl
  | cons c cs ih =>
      rw [allAscii_cons] at h
      have hbreak := respell_eq_underscore_iff h.1
      by_cases hc : respell c = '_'
      · simpa [hc, hbreak.1 hc] using ih h.2
      · have hhyphen : c ≠ '-' := by
          rintro rfl
          exact hc rfl
        have hkept : isWordBreak c.toLower = false := Bool.eq_false_iff.2 (hbreak.not.1 hc)
        rw [respell_eq_toLower hhyphen] at hc
        simpa [respell_eq_toLower hhyphen, hc, hkept] using ih h.2

/-- An underscore that was put in has other characters on both sides. -/
theorem exists_around_put_in {cs before after : List Char} (h : AllAscii cs)
    (hresult : snakeChars none cs = before ++ '_' :: after)
    (hput : Underscored (cs.map respell) (before ++ after)) :
    ∃ b a, before.getLast? = some b ∧ b ≠ '_' ∧ after.head? = some a ∧ a ≠ '_' := by
  obtain ⟨front', back', hcut, hbefore, hafter⟩ := hput.exists_append
  obtain ⟨front, back, rfl, rfl, rfl⟩ := List.map_eq_append_iff.1 hcut
  obtain ⟨hlast, c, rest, rfl, hstarts, rfl⟩ := around_put_in h hresult hbefore hafter
  rw [Option.or_none] at hstarts
  rw [allAscii_append, allAscii_cons] at h
  cases hp : front.getLast? with
  | none => simp [hp, startsWord] at hstarts
  | some p =>
      rw [hp] at hstarts
      have hpAscii := h.1 p (List.mem_of_getLast? hp)
      refine ⟨respell p, respell c, by simp [hlast, hp], ?_, rfl, ?_⟩
      · exact respell_ne_before_startsWord hpAscii hstarts
      · exact respell_ne_of_startsWord h.2.1 hstarts

/-- An underscore is put in exactly where a word starts. -/
theorem isWordStart_iff {front back : List Char} (h : AllAscii (front ++ back)) :
    IsWordStart front back ↔ ∃ before after,
      snakeChars none (front ++ back) = before ++ '_' :: after ∧
        Underscored (front.map respell) before ∧ Underscored (back.map respell) after := by
  obtain ⟨hfront, hback⟩ := (allAscii_append front back).1 h
  constructor
  · rintro ⟨p, c, rest, hp, rfl, hrule⟩
    have hstarts : startsWord (front.getLast?.or none) c rest.head? = true := by
      rw [Option.or_none]
      exact (isWordStart_cons_iff hfront hback).1 ⟨p, c, rest, hp, rfl, hrule⟩
    obtain ⟨before, hresult, hbefore⟩ := exists_put_in h hstarts
    exact ⟨before, _, hresult, hbefore,
      .keep _ (underscored_snakeChars ((allAscii_cons c rest).1 hback).2 (some c))⟩
  · rintro ⟨before, after, hresult, hbefore, hafter⟩
    obtain ⟨-, c, rest, rfl, hstarts, -⟩ := around_put_in h hresult hbefore hafter
    exact (isWordStart_cons_iff hfront hback).2 (by simpa using hstarts)

/-- Snake case changes nothing in an ASCII text but the case of its letters and its hyphens, and
puts underscores in. An underscore of the result was put in if the whole of the respelled text is
still there without it. Each of these has other characters on both sides, and there is one exactly
where a word starts. Snake case of snake case is the same again. -/
theorem snakeCase_only_breaks_words {s : String} (h : AllAscii s.toList) :
    (∀ c ∈ (snakeCase s).toList, isUpper c = false) ∧
    (snakeCase s).toList.filter (· ≠ '_') =
      (lowerText s).toList.filter (fun c => !isWordBreak c) ∧
    Underscored (s.toList.map respell) (snakeCase s).toList ∧
    (∀ before after, (snakeCase s).toList = before ++ '_' :: after →
      Underscored (s.toList.map respell) (before ++ after) →
        ∃ b a, before.getLast? = some b ∧ b ≠ '_' ∧ after.head? = some a ∧ a ≠ '_') ∧
    (∀ front back, s.toList = front ++ back → (IsWordStart front back ↔
      ∃ before after, (snakeCase s).toList = before ++ '_' :: after ∧
        Underscored (front.map respell) before ∧ Underscored (back.map respell) after)) ∧
    snakeCase (snakeCase s) = snakeCase s := by
  simp only [snakeCase, lowerText, String.toList_ofList]
  have hput := underscored_snakeChars h none
  refine ⟨?_, ?_, hput, fun _ _ => exists_around_put_in h, ?_, ?_⟩
  · intro c hc
    have hsettled := isSettled_of_mem_snakeChars h c hc
    rw [isUpper_of_isAscii hsettled.isAscii, hsettled.noUpper]
  · rw [hput.filter_eq, filter_map_respell h, lowerChars_of_allAscii h]
  · intro front back hcut
    rw [hcut] at h ⊢
    exact isWordStart_iff h
  · rw [snakeChars_eq_self (isSettled_of_mem_snakeChars h) none]

/-- Of the underscores in `_xml_http2_request__id`, the second and the third are put in. -/
theorem http_request_id_gets_two_underscores :
    AllAscii "-XMLHttp2Request__ID".toList ∧
    snakeCase "-XMLHttp2Request__ID" = "_xml_http2_request__id" ∧
    "_xml_http2_request__id".toList = "_xml_http2".toList ++ '_' :: "request__id".toList ∧
    Underscored ("-XMLHttp2Request__ID".toList.map respell)
      ("_xml_http2".toList ++ "request__id".toList) ∧
    (∃ b a, "_xml_http2".toList.getLast? = some b ∧ b ≠ '_' ∧
      "request__id".toList.head? = some a ∧ a ≠ '_') ∧
    (∃ before after, "_xml_http2_request__id".toList = before ++ '_' :: after ∧
      Underscored ("-XML".toList.map respell) before ∧
        Underscored ("Http2Request__ID".toList.map respell) after) ∧
    snakeCase "_xml_http2_request__id" = "_xml_http2_request__id" := by
  have hascii : AllAscii "-XMLHttp2Request__ID".toList :=
    List.all_eq_true.1 (by decide +kernel)
  have hsnake : snakeCase "-XMLHttp2Request__ID" = "_xml_http2_request__id" := by decide +kernel
  have hput : Underscored ("-XMLHttp2Request__ID".toList.map respell)
      ("_xml_http2".toList ++ "request__id".toList) :=
    (Underscored.refl "_xml".toList).append (.insert (.refl "http2request__id".toList))
  have hstart : IsWordStart "-XML".toList "Http2Request__ID".toList :=
    ⟨'L', 'H', "ttp2Request__ID".toList, rfl, rfl, rfl, .inr (.inr ⟨rfl, 't', rfl, rfl⟩)⟩
  obtain ⟨-, -, -, halone, hstarts, hagain⟩ := snakeCase_only_breaks_words hascii
  rw [hsnake] at halone hstarts hagain
  exact ⟨hascii, hsnake, by decide, hput, halone _ _ (by decide) hput,
    (hstarts _ _ (by decide)).1 hstart, hagain⟩

end GrammarForge.Text
