import GrammarForge.Proofs.Code.DistinctNames

/-!
# Single words in snake case

A name becomes a single word of letters in snake case if it is that word in lower case, with a
capital at its front, or in capitals throughout. In any other mixture of capitals and other letters
a second word starts.
-/

namespace GrammarForge.Text

/-- The word in capitals. -/
def capitals (word : String) : String := String.ofList (word.toList.map Char.toUpper)

/-- The spellings of a word in lower case. -/
def spellings (word : String) : List String := [word, pascalCase word, capitals word]

theorem isIdentRest_of_isAlpha {c : Char} (h : c.isAlpha = true) : isIdentRest c = true := by
  simp [isIdentRest, Char.isAlphanum, h]

/-- A letter is of one case, and goes over into the other one. -/
theorem letterCases {c : Char} (h : c.isAlpha = true) :
    c.isUpper = true ∧ c.isLower = false ∧ c.toLower.isLower = true ∧ c.toLower.toUpper = c ∨
      c.isUpper = false ∧ c.isLower = true ∧ c.toLower = c ∧ c.toUpper.isUpper = true ∧
        c.toUpper.toLower = c := by
  have hall {d : Char} := forall_ascii (c := d) (fun c => c.isAlpha = true →
    c.isUpper = true ∧ c.isLower = false ∧ c.toLower.isLower = true ∧ c.toLower.toUpper = c ∨
      c.isUpper = false ∧ c.isLower = true ∧ c.toLower = c ∧ c.toUpper.isUpper = true ∧
        c.toUpper.toLower = c) (by decide)
  exact hall (isAscii_of_isIdentRest (isIdentRest_of_isAlpha h)) h

/-- Between letters a word starts at a capital that follows a lower case letter or stands in front
of one. -/
theorem startsWord_of_letters {p c : Char} (hp : p.isAlpha = true) (hc : c.isAlpha = true)
    (next : Option Char) : startsWord (some p) c next =
      (c.isUpper && (p.isLower || next.any isLower)) := by
  have hpAscii := isAscii_of_isIdentRest (isIdentRest_of_isAlpha hp)
  have hcAscii := isAscii_of_isIdentRest (isIdentRest_of_isAlpha hc)
  have hdigit : p.isDigit = false := by
    have hall {d : Char} := forall_ascii (c := d)
      (fun c => c.isAlpha = true → c.isDigit = false) (by decide)
    exact hall hpAscii hp
  simp only [startsWord, isUpper, isLower, isAscii, hpAscii, hcAscii, hdigit, decide_true, if_true]
  rcases letterCases hp with ⟨hupper, hlower, -⟩ | ⟨hupper, hlower, -⟩ <;> simp [hupper, hlower]

/-- As long as no other word starts, snake case is lower case. -/
theorem snakeChars_eq_map {cs : List Char} (h : AllIdent cs) {prev : Option Char}
    (hsingle : '_' ∉ snakeChars prev cs) : snakeChars prev cs = cs.map Char.toLower := by
  induction cs generalizing prev with
  | nil => rfl
  | cons c cs ih =>
      obtain ⟨hc, hrest⟩ := (allIdent_cons c cs).1 h
      rw [snakeChars_cons_of_isIdentRest hc] at hsingle ⊢
      cases hstarts : startsWord prev c cs.head? with
      | true => simp [hstarts] at hsingle
      | false =>
          have hsingle : '_' ∉ snakeChars (some c) cs := by
            simp only [hstarts, Bool.false_eq_true, if_false, List.nil_append, List.mem_cons,
              not_or] at hsingle
            exact hsingle.2
          rw [ih hrest hsingle]
          rfl

/-- What no other word starts in. -/
theorem single_cons {p c : Char} {cs : List Char} (hp : p.isAlpha = true) (hc : c.isAlpha = true)
    (h : '_' ∉ snakeChars (some p) (c :: cs)) :
    (c.isUpper && (p.isLower || cs.head?.any isLower)) = false ∧ '_' ∉ snakeChars (some c) cs := by
  rw [snakeChars_cons_of_isIdentRest (isIdentRest_of_isAlpha hc), startsWord_of_letters hp hc] at h
  refine ⟨?_, fun hmem => h (by simp [hmem])⟩
  by_contra hstarts
  rw [Bool.not_eq_false] at hstarts
  exact h (by simp [hstarts])

/-- After a lower case letter a word goes on with such letters. -/
theorem noUpper_after_lower {p : Char} {cs : List Char} (hp : p.isLower = true)
    (hcs : ∀ c ∈ cs, c.isAlpha = true) (h : '_' ∉ snakeChars (some p) cs) :
    ∀ c ∈ cs, c.isUpper = false := by
  induction cs generalizing p with
  | nil => simp
  | cons c cs ih =>
      rw [List.forall_mem_cons] at hcs ⊢
      obtain ⟨hstarts, hrest⟩ := single_cons (by simp [Char.isAlpha, hp]) hcs.1 h
      have hc : c.isUpper = false := by simpa [hp] using hstarts
      refine ⟨hc, ih ?_ hcs.2 hrest⟩
      rcases letterCases hcs.1 with ⟨hupper, -⟩ | ⟨-, hlower, -⟩
      · exact absurd hupper (by simp [hc])
      · exact hlower

/-- After a capital a word goes on either with lower case letters or with capitals. -/
theorem sameCase_after_upper {p : Char} {cs : List Char} (hp : p.isUpper = true)
    (hcs : ∀ c ∈ cs, c.isAlpha = true) (h : '_' ∉ snakeChars (some p) cs) :
    (∀ c ∈ cs, c.isUpper = false) ∨ ∀ c ∈ cs, c.isUpper = true := by
  induction cs generalizing p with
  | nil => simp
  | cons c cs ih =>
      simp only [List.forall_mem_cons] at hcs ⊢
      obtain ⟨hstarts, hrest⟩ := single_cons (by simp [Char.isAlpha, hp]) hcs.1 h
      rcases letterCases hcs.1 with ⟨hupper, -⟩ | ⟨hupper, hlower, -⟩
      · -- A lower case letter after the two capitals would start a word with the second one.
        refine .inr ⟨hupper, ?_⟩
        rcases ih hupper hcs.2 hrest with hlow | hhigh
        · cases cs with
          | nil => simp
          | cons d ds =>
              have hd := hcs.2 d List.mem_cons_self
              have hdAscii := isAscii_of_isIdentRest (isIdentRest_of_isAlpha hd)
              have hnot : p.isLower = false ∧ d.isLower = false := by
                simpa [hupper, isLower, isAscii, hdAscii] using hstarts
              rcases letterCases hd with ⟨hupper, -⟩ | ⟨-, hlower, -⟩
              · exact absurd (hlow d List.mem_cons_self) (by simp [hupper])
              · exact absurd hlower (by simp [hnot.2])
        · exact hhigh
      · exact .inl ⟨hupper, noUpper_after_lower hlower hcs.2 hrest⟩

/-- A name that becomes a single word in snake case is in one case behind its first letter, which is
in that case or a capital. -/
theorem case_of_single {c : Char} {cs : List Char} (h : ∀ d ∈ c :: cs, d.isAlpha = true)
    (hsingle : '_' ∉ snakeChars none (c :: cs)) :
    (∀ d ∈ cs, d.isUpper = false) ∨ ∀ d ∈ c :: cs, d.isUpper = true := by
  rw [List.forall_mem_cons] at h
  have hrest : '_' ∉ snakeChars (some c) cs := by
    rw [snakeChars_cons_of_isIdentRest (isIdentRest_of_isAlpha h.1)] at hsingle
    exact fun hmem => hsingle (by simp [hmem])
  rcases letterCases h.1 with ⟨hupper, -⟩ | ⟨-, hlower, -⟩
  · rcases sameCase_after_upper hupper h.2 hrest with hlow | hhigh
    · exact .inl hlow
    · exact .inr (List.forall_mem_cons.2 ⟨hupper, hhigh⟩)
  · exact .inl (noUpper_after_lower hlower h.2 hrest)

/-- A run of capitals is one word. -/
theorem snakeChars_of_capitals {cs : List Char} (h : ∀ c ∈ cs, c.isUpper = true)
    {prev : Option Char} (hprev : ∀ p ∈ prev, p.isUpper = true) :
    snakeChars prev cs = cs.map Char.toLower := by
  induction cs generalizing prev with
  | nil => rfl
  | cons c cs ih =>
      rw [List.forall_mem_cons] at h
      have halpha {d : Char} (hd : d.isUpper = true) : d.isAlpha = true := by
        simp [Char.isAlpha, hd]
      have hlower {d : Char} (hd : d.isUpper = true) : d.isLower = false := by
        rcases letterCases (halpha hd) with ⟨-, hlower, -⟩ | ⟨hupper, -⟩
        · exact hlower
        · exact absurd hd (by simp [hupper])
      have hnext : cs.head?.any isLower = false := by
        cases cs with
        | nil => rfl
        | cons d ds =>
            have hd := h.2 d List.mem_cons_self
            have hascii := isAscii_of_isIdentRest (isIdentRest_of_isAlpha (halpha hd))
            simp [isLower, isAscii, hascii, hlower hd]
      have hstarts : startsWord prev c cs.head? = false := by
        cases prev with
        | none => rfl
        | some p =>
            have hp := hprev p rfl
            rw [startsWord_of_letters (halpha hp) (halpha h.1), hlower hp, hnext]
            simp
      have hident := isIdentRest_of_isAlpha (halpha h.1)
      rw [snakeChars_cons_of_isIdentRest hident, hstarts, ih h.2 (by simpa using h.1)]
      rfl

theorem isWordBreak_of_isAlpha {c : Char} (h : c.isAlpha = true) : isWordBreak c = false := by
  have hall {d : Char} := forall_ascii (c := d)
    (fun c => c.isAlpha = true → isWordBreak c = false) (by decide)
  exact hall (isAscii_of_isIdentRest (isIdentRest_of_isAlpha h)) h

theorem pascalChars_of_letters {cs : List Char} (h : ∀ c ∈ cs, c.isAlpha = true) :
    pascalChars false cs = cs := by
  induction cs with
  | nil => rfl
  | cons c cs ih =>
      rw [List.forall_mem_cons] at h
      rw [pascalChars, isWordBreak_of_isAlpha h.1, ih h.2]
      rfl

theorem pascalChars_cons_of_letters {c : Char} {cs : List Char}
    (h : ∀ d ∈ c :: cs, d.isAlpha = true) : pascalChars true (c :: cs) = c.toUpper :: cs := by
  rw [List.forall_mem_cons] at h
  have hbreak := isWordBreak_of_isAlpha h.1
  rw [pascalChars, hbreak, upper_of_isIdentRest (isIdentRest_of_isAlpha h.1),
    pascalChars_of_letters h.2]
  rfl

/-- A letter in lower case has a capital, from which it is got back. -/
structure IsSmall (c : Char) : Prop where
  isAlpha : c.isAlpha = true
  noUpper : c.isUpper = false
  raised : c.toUpper.isUpper = true
  lowered : c.toUpper.toLower = c

theorem isSmall_of_isLower {c : Char} (h : c.isLower = true) : IsSmall c := by
  have halpha : c.isAlpha = true := by simp [Char.isAlpha, h]
  rcases letterCases halpha with ⟨-, hlower, -⟩ | ⟨hupper, -, -, hraised, hback⟩
  · exact absurd h (by simp [hlower])
  · exact ⟨halpha, hupper, hraised, hback⟩

section

variable {cs : List Char} (h : ∀ c ∈ cs, IsSmall c)

include h

theorem snakeChars_of_small (prev : Option Char) : snakeChars prev cs = cs :=
  snakeChars_eq_self (fun c hc =>
    isSettled_of_isIdentRest (isIdentRest_of_isAlpha (h c hc).isAlpha) (h c hc).noUpper) prev

theorem snakeChars_pascalChars : snakeChars none (pascalChars true cs) = cs := by
  cases cs with
  | nil => rfl
  | cons c cs =>
      rw [pascalChars_cons_of_letters fun d hd => (h d hd).isAlpha]
      rw [List.forall_mem_cons] at h
      have hupper : isIdentRest c.toUpper = true :=
        isIdentRest_of_isAlpha (by simp [Char.isAlpha, h.1.raised])
      rw [snakeChars_cons_of_isIdentRest hupper, h.1.lowered, snakeChars_of_small h.2]
      rfl

theorem snakeChars_map_toUpper : snakeChars none (cs.map Char.toUpper) = cs := by
  have hraised : ∀ c ∈ cs.map Char.toUpper, c.isUpper = true := by
    simpa using fun c hc => (h c hc).raised
  rw [snakeChars_of_capitals hraised (by simp), List.map_map]
  exact (List.map_congr_left fun c hc => (h c hc).lowered).trans (List.map_id cs)

end

/-- Letters that make up a single word are spelled in one of three ways. -/
theorem spelled_of_single {cs : List Char} (h : ∀ c ∈ cs, c.isAlpha = true)
    (hsingle : '_' ∉ snakeChars none cs) : cs = cs.map Char.toLower ∨
      cs = pascalChars true (cs.map Char.toLower) ∨
        cs = (cs.map Char.toLower).map Char.toUpper := by
  cases cs with
  | nil => exact .inl rfl
  | cons c cs =>
      have hsmall {ds : List Char} (hds : ∀ d ∈ ds, d.isAlpha = true)
          (hlow : ∀ d ∈ ds, d.isUpper = false) : ds.map Char.toLower = ds := by
        refine (List.map_congr_left fun d hd => ?_).trans (List.map_id ds)
        rcases letterCases (hds d hd) with ⟨hupper, -⟩ | ⟨-, -, hsame, -⟩
        · exact absurd hupper (by simp [hlow d hd])
        · exact hsame
      rcases case_of_single h hsingle with hlow | hhigh
      · have hrest := hsmall (List.forall_mem_cons.1 h).2 hlow
        rcases letterCases (h c List.mem_cons_self) with ⟨-, -, hlower, hback⟩ | ⟨-, -, hsame, -⟩
        · right; left
          have hletters : ∀ d ∈ c.toLower :: cs, d.isAlpha = true :=
            List.forall_mem_cons.2 ⟨by simp [Char.isAlpha, hlower], (List.forall_mem_cons.1 h).2⟩
          rw [List.map_cons, hrest, pascalChars_cons_of_letters hletters, hback]
        · left
          rw [List.map_cons, hrest, hsame]
      · right; right
        rw [List.map_map]
        refine ((List.map_congr_left fun d hd => ?_).trans (List.map_id _)).symm
        rcases letterCases (h d hd) with ⟨-, -, -, hback⟩ | ⟨hlow, -⟩
        · exact hback
        · exact absurd (hhigh d hd) (by simp [hlow])

/-- A word in lower case is the snake case of its three spellings and of no other name. -/
theorem snakeCase_eq_iff {name word : String} (hname : AllIdent name.toList)
    (hword : ∀ c ∈ word.toList, c.isLower = true) :
    snakeCase name = word ↔ name ∈ spellings word := by
  have hsmall : ∀ c ∈ word.toList, IsSmall c := fun c hc => isSmall_of_isLower (hword c hc)
  rw [← String.toList_inj, snakeCase, String.toList_ofList]
  simp only [spellings, List.mem_cons, List.not_mem_nil, or_false, ← String.toList_inj, pascalCase,
    capitals, String.toList_ofList]
  constructor
  · intro hchars
    have hsingle : '_' ∉ snakeChars none name.toList := by
      rw [hchars]
      exact fun hmem => absurd (hword _ hmem) (by decide)
    have hlowered : word.toList = name.toList.map Char.toLower :=
      hchars.symm.trans (snakeChars_eq_map hname hsingle)
    have hletters : ∀ c ∈ name.toList, c.isAlpha = true := by
      intro c hc
      have hall {d : Char} := forall_ascii (c := d)
        (fun c => c.toLower.isLower = true → c.isAlpha = true) (by decide)
      refine hall (isAscii_of_isIdentRest (hname c hc)) (hword _ ?_)
      rw [hlowered]
      exact List.mem_map_of_mem hc
    rw [hlowered]
    exact spelled_of_single hletters hsingle
  · rintro (hsame | hsame | hsame)
    · rw [hsame]
      exact snakeChars_of_small hsmall none
    · rw [hsame]
      exact snakeChars_pascalChars hsmall
    · rw [hsame]
      exact snakeChars_map_toUpper hsmall

end GrammarForge.Text
