import GrammarForge.Proofs.Grammar.SyntaxErrors
import GrammarForge.Proofs.LogicalName.RoundTrip

/-!
# What messages about names show

A text that is no logical name is shown as it is, but for the blanks around it. So the message goes
over the end of a line exactly if the text does. The text of a name never does.
-/

namespace GrammarForge

theorem Segment.oneLine_text (s : Segment) : OneLine s.text := s.isWord.oneLine

namespace LogicalName

theorem oneLine_text (n : LogicalName) : OneLine n.text := by
  have hsegment : ∀ s : Segment, '\n' ∉ s.text.toList := Segment.oneLine_text
  obtain ⟨first, rest, heq, -⟩ := ofSegments_append n.modules n.simple
  rw [OneLine, text, segments, heq, toList_joinSegments_cons]
  simp [hsegment]

/-- No character is lost when a text is cut, but for colons. -/
theorem mem_splitChars {c : Char} (hc : c ≠ ':') (cs : List Char) :
    c ∈ cs ↔ ∃ piece ∈ (splitChars cs).1 :: (splitChars cs).2, c ∈ piece := by
  fun_induction splitChars cs with
  | case1 => simp
  | case2 rest piece pieces hsplit ih =>
      rw [hsplit] at ih
      simp [hc, ih]
  | case3 d rest hcolons piece pieces hsplit ih =>
      rw [hsplit] at ih
      simp only [List.mem_cons, exists_eq_or_imp] at ih ⊢
      rw [ih, or_assoc]

theorem oneLine_of_parseSegment {name segment : String} {s : Segment}
    (h : parseSegment name segment = .ok s) : OneLine segment := by
  unfold parseSegment at h
  split_ifs at h with _ _ hidentifier
  exact (Code.isWord_of_isIdentifier hidentifier).oneLine

theorem message_of_parseSegment {name segment : String} {e : NameError}
    (h : parseSegment name segment = .error e) (hsegment : OneLine name → OneLine segment) :
    OneLine e.message ↔ OneLine name := by
  unfold parseSegment at h
  split_ifs at h <;> cases h <;> unfold NameError.message <;> simp +decide
  · exact hsegment
  · exact hsegment

/-- The pieces of a text that must be segments. -/
def pieces (s : String) : List (List Char) :=
  (splitChars (Text.trim s).toList).1 :: (splitChars (Text.trim s).toList).2

theorem oneLine_trim_iff {s : String} : OneLine (Text.trim s) ↔
    ∀ piece ∈ pieces s, OneLine (String.ofList piece) := by
  have hmem := mem_splitChars (c := '\n') (by decide) (Text.trim s).toList
  simp only [OneLine, String.toList_ofList, hmem, pieces]
  push Not
  rfl

/-- A check of all elements of a list succeeds if it does for each, or fails as it does for one. -/
theorem mapM_cases {ε α β : Type} (f : α → Except ε β) (as : List α) :
    (∃ bs, as.mapM f = .ok bs ∧ ∀ a ∈ as, ∃ b, f a = .ok b) ∨
      ∃ e, as.mapM f = .error e ∧ ∃ a ∈ as, f a = .error e := by
  induction as with
  | nil => exact .inl ⟨[], rfl, by simp⟩
  | cons a rest ih =>
      rw [List.mapM_cons]
      cases hfirst : f a with
      | error e => exact .inr ⟨e, rfl, a, by simp, hfirst⟩
      | ok b =>
          rcases ih with ⟨bs, hrest, hall⟩ | ⟨e, hrest, a', ha', he⟩
          · rw [hrest]
            exact .inl ⟨b :: bs, rfl, List.forall_mem_cons.2 ⟨⟨b, hfirst⟩, hall⟩⟩
          · rw [hrest]
            exact .inr ⟨e, rfl, a', List.mem_cons_of_mem a ha', he⟩

theorem parse_cases {s : String} (h : Text.trim s ≠ "") :
    (∃ n, parse s = .ok n ∧ ∀ piece ∈ pieces s, ∃ segment,
        parseSegment (Text.trim s) (String.ofList piece) = .ok segment) ∨
      ∃ e, parse s = .error e ∧ ∃ piece ∈ pieces s,
        parseSegment (Text.trim s) (String.ofList piece) = .error e := by
  have hchecks := mapM_cases (fun piece => parseSegment (Text.trim s) (String.ofList piece))
    (splitChars (Text.trim s).toList).2
  simp only [parse, if_neg h, pieces]
  cases hfirst : parseSegment (Text.trim s)
      (String.ofList (splitChars (Text.trim s).toList).1) with
  | error e => exact .inr ⟨e, rfl, _, List.mem_cons_self, hfirst⟩
  | ok first =>
      rcases hchecks with ⟨rest, hrest, hall⟩ | ⟨e, hrest, piece, hpiece, herror⟩
      · rw [hrest]
        exact .inl ⟨_, rfl, List.forall_mem_cons.2 ⟨⟨first, hfirst⟩, hall⟩⟩
      · rw [hrest]
        exact .inr ⟨e, rfl, piece, List.mem_cons_of_mem _ hpiece, herror⟩

/-- A name is read from one line only. -/
theorem oneLine_trim_of_parse {s : String} {n : LogicalName} (h : parse s = .ok n) :
    OneLine (Text.trim s) := by
  by_cases hempty : Text.trim s = ""
  · rw [hempty]
    decide
  · rcases parse_cases hempty with ⟨-, -, hall⟩ | ⟨e, herror, -⟩
    · refine oneLine_trim_iff.2 fun piece hpiece => ?_
      obtain ⟨segment, hsegment⟩ := hall piece hpiece
      exact oneLine_of_parseSegment hsegment
    · rw [h] at herror
      cases herror

/-- The message about a text that is no name has one line exactly if the text has. -/
theorem oneLine_message_of_parse {s : String} {e : NameError} (h : parse s = .error e) :
    OneLine e.message ↔ OneLine (Text.trim s) := by
  by_cases hempty : Text.trim s = ""
  · have he : e = .empty := by
      simp only [parse, if_pos hempty] at h
      cases h
      rfl
    rw [he, hempty]
    decide
  · rcases parse_cases hempty with ⟨n, hok, -⟩ | ⟨e', herror, piece, hpiece, hsegment⟩
    · rw [h] at hok
      cases hok
    · rw [h] at herror
      cases herror
      exact message_of_parseSegment hsegment fun hname => oneLine_trim_iff.1 hname piece hpiece

end LogicalName

end GrammarForge
