import GrammarForge.Proofs.Grammar.BodyReading
import GrammarForge.Proofs.Grammar.ScannedTokens
import GrammarForge.Generation.Analysis

/-!
# Files are read as they derive

The parts of a grammar file, and the whole of it. A file is read exactly if it derives, whichever
way a `private` between two rules is taken; what is read is the derivation in which it modifies the
rule after it. Every other derivation can be turned into that one.
-/

namespace GrammarForge.GrammarFile

open Derived Body

/-! ## Attribute blocks -/

theorem attributeValue_eq_ok {v : Token} {text : String} :
    attributeValue v = .ok text ↔ Value v text := by
  unfold attributeValue
  constructor
  · intro h
    split at h <;> cases h
    · exact .literal ‹_›
    · exact .name ‹_›
  · rintro (h | h) <;> simp [h]

/-- The settings up to a closing brace. -/
theorem readAttributes_derives {length : Nat} {ts after : List Token}
    {pairs : List (String × String)} (h : readAttributes length ts = .ok (pairs, after)) :
    ∃ us closing, ts = us ++ closing :: after ∧ Entries us pairs ∧ closing.kind = .rightBrace := by
  fun_induction readAttributes length ts generalizing pairs with
  | case2 t rest hkind =>
      cases h
      exact ⟨[], t, rfl, .nil, hkind⟩
  | case3 t rest hkind ih =>
      obtain ⟨us, closing, rfl, hus, hclosing⟩ := ih h
      exact ⟨t :: us, closing, rfl, .separator hkind hus, hclosing⟩
  | case8 t hkey eq heq v rest value hvalue ih =>
      cases hr : readAttributes length rest with
      | error e => simp [hr, Except.map] at h
      | ok r =>
          simp only [hr, Except.map, Except.ok.injEq, Prod.mk.injEq] at h
          obtain ⟨rfl, rfl⟩ := h
          obtain ⟨us, closing, rfl, hus, hclosing⟩ := ih hr
          exact ⟨t :: eq :: v :: us, closing, rfl,
            .setting hkey (not_not.1 heq) (attributeValue_eq_ok.1 hvalue) hus, hclosing⟩
  | case1 => cases h
  | case4 => cases h
  | case5 => cases h
  | case6 => cases h
  | case7 => cases h
  | case9 => cases h

theorem readAttributes_eq_ok {length : Nat} {us after : List Token} {closing : Token}
    {pairs : List (String × String)} (h : Entries us pairs)
    (hclosing : closing.kind = .rightBrace) :
    readAttributes length (us ++ closing :: after) = .ok (pairs, after) := by
  induction h with
  | nil => rw [List.nil_append, readAttributes.eq_def]; simp [hclosing]
  | separator ht _ ih => rw [List.cons_append, readAttributes.eq_def]; simpa [ht] using ih
  | setting hkey heq hvalue _ ih =>
      rw [List.cons_append, readAttributes.eq_def]
      simp [hkey, heq, attributeValue_eq_ok.2 hvalue, ih, Except.map]

/-! ## Rules -/

/-- A body that has been read leaves a `private` to the rule after it. -/
theorem leavesModifier_of_quiet {name define : Token} {body stop after : List Token}
    (hdefine : define.kind = .define) (hstop : Separator stop)
    (hquiet : Quiet body (stop ++ after)) :
    LeavesModifier (name :: define :: body ++ stop) after := by
  intro hnamed t ht
  cases hstop with
  | present hs =>
      rw [List.getLast?_concat, Option.mem_some_iff] at ht
      rintro ⟨hident, -⟩
      simp [← ht, hs] at hident
  | absent =>
      rcases List.eq_nil_or_concat body with rfl | ⟨body, last, rfl⟩
      · rintro ⟨hident, -⟩
        simp at ht
        simp [← ht, hdefine] at hident
      · rw [List.append_nil, List.concat_eq_append, ← List.cons_append, ← List.cons_append,
          List.getLast?_concat, Option.mem_some_iff] at ht
        rw [List.concat_eq_append, quiet_append, quiet_cons, List.nil_append,
          startsRule_cons] at hquiet
        rintro ⟨-, htext⟩
        simp [ht, htext, (named_iff after).2 hnamed] at hquiet

/-- A rule from its name on, with the semicolon after it if there is one. -/
theorem readNamedRule_derives {length start : Nat} {isPrivate : Bool} {name : Token}
    {ts after : List Token} {r : Rule}
    (h : readNamedRule .standard length start isPrivate name ts = .ok (r, after)) :
    ∃ core stop e, name :: ts = core ++ stop ++ after ∧ Definition core name.text e ∧
      Separator stop ∧ r = ⟨name.text, isPrivate, e, ⟨start, lastStop start core⟩⟩ ∧
      LeavesModifier (core ++ stop) after := by
  unfold readNamedRule at h
  split at h
  · cases h
  rename_i hname
  split at h
  · cases h
  rename_i define rest
  split at h
  · cases h
  rename_i hdefine
  simp only [bind, Except.bind] at h
  split at h
  · cases h
  rename_i result hread
  obtain ⟨body, hsplit, hchoice, hstop, hquiet⟩ := read_completes hread .nil Level.empty_derives
  have hdefinition : Definition (name :: define :: body) name.text result.expr :=
    .mk (not_not.1 hname) (not_not.1 hdefine) hchoice
  have finish (stop : List Token) (hrest : result.rest = stop ++ after) (hsep : Separator stop)
      (hr : r = ⟨name.text, isPrivate, result.expr, ⟨start, result.stop⟩⟩) :
      ∃ core stop e, name :: define :: rest = core ++ stop ++ after ∧
        Definition core name.text e ∧ Separator stop ∧
        r = ⟨name.text, isPrivate, e, ⟨start, lastStop start core⟩⟩ ∧
        LeavesModifier (core ++ stop) after := by
    refine ⟨_, stop, _, by simp [hsplit, hrest], hdefinition, hsep, by rw [hr, hstop]; rfl, ?_⟩
    exact leavesModifier_of_quiet (not_not.1 hdefine) hsep (hrest ▸ hquiet)
  split at h
  · rename_i s rest' hrest
    split at h
    · cases h
      exact finish [s] hrest (.present ‹_›) rfl
    · cases h
      exact finish [] hrest .absent rfl
  · cases h
    exact finish [] ‹_› .absent rfl

/-- A word of a scanned token list is a name. -/
def WordsAreNames (ts : List Token) : Prop := ∀ t ∈ ts, t.text = "private" → t.kind = .ident

theorem readRule_derives {length : Nat} {t : Token} {rest after : List Token} {r : Rule}
    (hw : WordsAreNames (t :: rest)) (h : readRule .standard length t rest = .ok (r, after)) :
    ∃ ts, t :: rest = ts ++ after ∧ RuleText ts r ∧ LeavesModifier ts after := by
  unfold readRule at h
  split at h
  · rename_i hmodifier
    simp only [isModifier, Bool.and_eq_true, decide_eq_true_eq] at hmodifier
    split at h
    · rename_i name rest
      obtain ⟨core, stop, e, hsplit, hdef, hsep, rfl, hleaves⟩ := readNamedRule_derives h
      have hword : IsPrivateWord t := ⟨hw t (by simp) hmodifier.1, hmodifier.1⟩
      refine ⟨t :: (core ++ stop), by simp [hsplit], ?_, hleaves.cons (by simp [hdef.ne_nil])⟩
      rw [lastStop_of_ne_nil hdef.ne_nil t.span.start t.span.stop]
      exact .modified hword hdef hsep
    · cases h
  · obtain ⟨core, stop, e, hsplit, hdef, hsep, rfl, hleaves⟩ := readNamedRule_derives h
    refine ⟨core ++ stop, hsplit, ?_, hleaves⟩
    match core, hdef.ne_nil with
    | u :: core, _ =>
        obtain ⟨rfl, -⟩ := List.cons.inj hsplit
        exact .plain hdef hsep

/-! ## Files -/

theorem WordsAreNames.of_append {ts us : List Token} (h : WordsAreNames (ts ++ us)) :
    WordsAreNames ts ∧ WordsAreNames us :=
  ⟨fun t ht => h t (by simp [ht]), fun t ht => h t (by simp [ht])⟩

theorem map_eq_ok {α β : Type} {f : α → β} {x : Except GrammarError α} {b : β}
    (h : x.map f = .ok b) : ∃ a, x = .ok a ∧ f a = b := by
  cases x with
  | error e => cases h
  | ok a => exact ⟨a, rfl, Except.ok.inj h⟩

/-- Whatever is read derives, with every modifier where it belongs. -/
theorem readParts_derives {length : Nat} {ts : List Token} {pairs : List (String × String)}
    {rules : List Rule} (hw : WordsAreNames ts)
    (h : readParts .standard length ts = .ok (pairs, rules)) :
    File LeavesModifier ts pairs rules := by
  fun_induction readParts .standard length ts generalizing pairs rules with
  | case1 => cases h; exact .nil
  | case2 => cases h
  | case3 t rest hopening block after hblock _ ih =>
      obtain ⟨⟨more, rules'⟩, hafter, heq⟩ := map_eq_ok h
      cases heq
      obtain ⟨us, closing, rfl, hus, hclosing⟩ := readAttributes_derives hblock
      have hw' : WordsAreNames after := fun u hu => hw u (by simp [hu])
      exact .block hopening hus hclosing (ih hw' hafter)
  | case4 t rest hkind ih => exact .separator hkind (ih (fun u hu => hw u (by simp [hu])) h)
  | case5 => cases h
  | case6 =>
      rename_i hrule _ _ _ ih
      obtain ⟨⟨pairs', rules'⟩, hafter, heq⟩ := map_eq_ok h
      cases heq
      obtain ⟨us, hsplit, hus, hleaves⟩ := readRule_derives hw hrule
      rw [hsplit] at hw ⊢
      exact .rule hus hleaves (ih hw.of_append.2 hafter)

/-- What comes after a rule: nothing, a separator, an attribute block or another rule. -/
def CanFollow (us : List Token) : Prop :=
  ∀ t ∈ us.head?, t.kind = .semicolon ∨ t.kind = .leftBrace ∨
    (t.kind = .ident ∧ startsRule us = true)

theorem canFollow_of_ruleText {ts us : List Token} {r : Rule} (h : RuleText ts r) :
    CanFollow (ts ++ us) := by
  cases h with
  | plain hdef _ =>
      cases hdef with
      | mk hname hdefine _ =>
          intro t ht
          cases ht
          exact .inr (.inr ⟨hname, by simp [startsRule, hname, hdefine]⟩)
  | modified hword hdef _ =>
      cases hdef with
      | mk hname hdefine _ =>
          intro t ht
          cases ht
          exact .inr (.inr ⟨hword.1, by simp [startsRule, hword.2, hname, hdefine]⟩)

theorem canFollow_of_file {fits : List Token → List Token → Prop} {ts : List Token}
    {pairs : List (String × String)} {rules : List Rule} (h : File fits ts pairs rules) :
    CanFollow ts := by
  cases h with
  | nil => intro t ht; cases ht
  | block hopening => intro t ht; cases ht; exact .inr (.inl hopening)
  | separator hkind => intro t ht; cases ht; exact .inl hkind
  | rule hts => exact canFollow_of_ruleText hts

/-- The tokens after a semicolon that stands first. -/
def dropSeparator : List Token → List Token
  | [] => []
  | t :: ts => if t.kind = .semicolon then ts else t :: ts

/-- A rule ends with its body, apart from a semicolon. -/
theorem readNamedRule_body (length : Nat) (factory : AstFactory) (start : Nat) (isPrivate : Bool)
    {name d : Token} (hname : name.kind = .ident) (hdefine : d.kind = .define) (rest : List Token) :
    readNamedRule factory length start isPrivate name (d :: rest) =
      (Body.read length d.span.stop [] .empty rest).map fun body =>
        (factory.makeRule name.text isPrivate body.expr ⟨start, body.stop⟩,
          dropSeparator body.rest) := by
  simp only [readNamedRule, hname, hdefine, ne_eq, not_true_eq_false, if_false]
  cases Body.read length d.span.stop [] .empty rest with
  | error e => rfl
  | ok body =>
      obtain ⟨e, stop, _ | ⟨s, after⟩⟩ := body
      · rfl
      · by_cases hkind : s.kind = .semicolon <;>
          simp [bind, Except.bind, Except.map, pure, Except.pure, dropSeparator, hkind]

theorem readParts_dropSeparator (length : Nat) (us : List Token) :
    readParts .standard length (dropSeparator us) = readParts .standard length us := by
  cases us with
  | nil => rfl
  | cons t ts =>
      rw [dropSeparator]
      split
      · rw [readParts.eq_def _ _ (t :: ts)]
        simp [‹t.kind = _›]
      · rfl

theorem getLast?_body {name define t : Token} {body : List Token} (h : t ∈ body.getLast?) :
    t ∈ (name :: define :: body).getLast? := by
  cases body with
  | nil => cases h
  | cons => simpa using h

/-- A body that derives has no start of a rule in it if it leaves a `private` to what follows. -/
theorem quiet_of_leavesModifier {name define : Token} {body stop us : List Token} {e : Expr}
    (hbody : Choice body e) (hstop : Separator stop) (hw : WordsAreNames body)
    (hleaves : LeavesModifier (name :: define :: body ++ stop) us)
    (hfollow : CanFollow (stop ++ us)) : Quiet body (stop ++ us) := by
  refine quiet_of_no_define hbody.no_define (fun t ht => ?_) fun hnamed t ht htext => ?_
  · rcases hfollow t ht with h | h | ⟨h, -⟩ <;> simp [h]
  · cases hstop with
    | present hs =>
        obtain ⟨n, d, _, heq, hn, -⟩ := hnamed
        cases heq
        simp [hs] at hn
    | absent =>
        rw [List.append_nil] at hleaves
        exact hleaves hnamed t (getLast?_body ht) ⟨hw t (List.mem_of_getLast? ht) htext, htext⟩

/-- A rule that derives is read from its name on. -/
theorem readNamedRule_eq_ok (length start : Nat) (isPrivate : Bool) {name define : Token}
    {body stop us : List Token} {e : Expr} (hname : name.kind = .ident)
    (hdefine : define.kind = .define) (hbody : Choice body e) (hstop : Separator stop)
    (hw : WordsAreNames body) (hleaves : LeavesModifier (name :: define :: body ++ stop) us)
    (hus : CanFollow us) : ∃ after,
      readNamedRule .standard length start isPrivate name (define :: (body ++ (stop ++ us))) =
        .ok (⟨name.text, isPrivate, e, ⟨start, lastStop define.span.stop body⟩⟩, after) ∧
      readParts .standard length after = readParts .standard length us := by
  have hfollow : CanFollow (stop ++ us) := by
    cases hstop with
    | absent => exact hus
    | present hs => intro t ht; cases ht; exact .inl hs
  have hquiet := quiet_of_leavesModifier hbody hstop hw hleaves hfollow
  obtain ⟨level, rfl, hread⟩ := read_choice hbody hquiet length define.span.stop []
  have hend : read length (lastStop define.span.stop body) [] level (stop ++ us) =
      .ok ⟨level.expr, lastStop define.span.stop body, stop ++ us⟩ := by
    refine read_end fun t ht => ?_
    rcases hfollow t ht with h | h | ⟨-, h⟩
    · exact .inr (.inl h)
    · exact .inr (.inr h)
    · exact .inl h
  refine ⟨dropSeparator (stop ++ us), ?_, ?_⟩
  · simp only [readNamedRule, hname, hdefine, ne_eq, not_true_eq_false, if_false, bind,
      Except.bind, hread, hend]
    cases hrest : stop ++ us with
    | nil => rfl
    | cons t rest => by_cases hkind : t.kind = .semicolon <;> simp [dropSeparator, hkind] <;> rfl
  · rw [readParts_dropSeparator]
    cases hstop with
    | absent => rfl
    | present hs =>
        rw [List.singleton_append, readParts.eq_def _ _ (_ :: us)]
        simp [hs]

/-- A rule that derives is read, together with a semicolon after it. -/
theorem readParts_rule {length : Nat} {ts us : List Token} {r : Rule} (h : RuleText ts r)
    (hw : WordsAreNames ts) (hleaves : LeavesModifier ts us) (hus : CanFollow us) :
    readParts .standard length (ts ++ us) =
      (readParts .standard length us).map fun (pairs, rules) => (pairs, r :: rules) := by
  have hrule : ∃ t rest after, ts ++ us = t :: rest ∧ t.kind = .ident ∧
      readRule .standard length t rest = .ok (r, after) ∧
      readParts .standard length after = readParts .standard length us := by
    cases h with
    | @plain _ stop _ _ hdef hstop =>
        cases hdef with
        | @mk name define body _ hname hdefine hbody =>
            obtain ⟨after, hread, hafter⟩ := readNamedRule_eq_ok length name.span.start
              false hname hdefine hbody hstop (fun t ht => hw t (by simp [ht])) hleaves hus
            refine ⟨name, define :: (body ++ (stop ++ us)), after, by simp, hname, ?_, hafter⟩
            rw [readRule, if_neg (by simp [isModifier, hdefine]), hread]
            rfl
    | @modified word _ stop _ _ hword hdef hstop =>
        cases hdef with
        | @mk name define body _ hname hdefine hbody =>
            obtain ⟨after, hread, hafter⟩ := readNamedRule_eq_ok length word.span.start
              true hname hdefine hbody hstop (fun t ht => hw t (by simp [ht])) hleaves.of_cons hus
            refine ⟨word, name :: define :: (body ++ (stop ++ us)), after, by simp, hword.1, ?_,
              hafter⟩
            rw [readRule, if_pos (by simp [isModifier, hword.2, hname]), hread]
            rfl
  obtain ⟨t, rest, after, hsplit, hkind, hread, hafter⟩ := hrule
  rw [hsplit, readParts.eq_def]
  simp only [hkind]
  split
  · rw [hread] at *
    contradiction
  · rename_i heq
    rw [hread] at heq
    cases heq
    rw [hafter]

theorem readParts_eq_ok {length : Nat} {ts : List Token} {pairs : List (String × String)}
    {rules : List Rule} (hw : WordsAreNames ts) (h : File LeavesModifier ts pairs rules) :
    readParts .standard length ts = .ok (pairs, rules) := by
  induction h with
  | nil => simp [readParts]
  | block hopening hus hclosing _ ih =>
      rw [readParts.eq_def]
      simp only [hopening]
      split
      · rw [readAttributes_eq_ok hus hclosing] at *
        contradiction
      · rename_i heq
        rw [readAttributes_eq_ok hus hclosing] at heq
        cases heq
        rw [ih (fun u hu => hw u (by simp [hu]))]
        rfl
  | separator hkind _ ih =>
      rw [readParts.eq_def]
      simp [hkind, ih (fun u hu => hw u (by simp [hu]))]
  | rule hts hleaves hfile ih =>
      rw [readParts_rule hts hw.of_append.1 hleaves (canFollow_of_file hfile),
        ih hw.of_append.2]
      rfl

end GrammarForge.GrammarFile
