import GrammarForge.Grammar.File

/-!
# The grammar of grammar files

The syntax that the readers of `Grammar.Body` and `Grammar.File` are for, as relations between token
lists and what they stand for. Nothing here looks ahead: a body derives from its own tokens alone.
Where one body ends and the next rule begins is therefore open, and a word `private` between two
rules can end the body before it as well as modify the rule after it. `File` takes the restriction
that settles this as a parameter.
-/

namespace GrammarForge.Derived

/-- A name stands for a token if it has an ASCII letter, and none in lower case. -/
def NamesToken (name : String) : Prop :=
  (∃ c ∈ name.toList, c.isAlpha) ∧ ∀ c ∈ name.toList, ¬ c.isLower

theorem namesToken_iff (name : String) : NamesToken name ↔ isTokenName name = true := by
  simp [NamesToken, isTokenName]

/-! ## Bodies -/

mutual

/-- An alternative, or several with bars between them. A choice of one is that alternative. -/
inductive Choice : List Token → Expr → Prop
  | single {ts : List Token} {e : Expr} : Alternatives ts [e] → Choice ts e
  | several {ts : List Token} {es : List Expr} :
      Alternatives ts es → 2 ≤ es.length → Choice ts (.choice es)

/-- One or more sequences with bars between them. -/
inductive Alternatives : List Token → List Expr → Prop
  | last {ts : List Token} {e : Expr} : Sequence ts e → Alternatives ts [e]
  | next {ts us : List Token} {bar : Token} {e : Expr} {es : List Expr} :
      Sequence ts e → bar.kind = .pipe → Alternatives us es →
      Alternatives (ts ++ bar :: us) (e :: es)

/-- Any number of items. A sequence of one is that item. -/
inductive Sequence : List Token → Expr → Prop
  | single {ts : List Token} {e : Expr} : Items ts [e] → Sequence ts e
  | several {ts : List Token} {es : List Expr} :
      Items ts es → es.length ≠ 1 → Sequence ts (.sequence es)

inductive Items : List Token → List Expr → Prop
  | nil : Items [] []
  | cons {ts us : List Token} {e : Expr} {es : List Expr} :
      Postfix ts e → Items us es → Items (ts ++ us) (e :: es)

/-- A primary expression and any number of postfix operators after it. -/
inductive Postfix : List Token → Expr → Prop
  | primary {ts : List Token} {e : Expr} : Primary ts e → Postfix ts e
  | star {ts : List Token} {t : Token} {e : Expr} :
      Postfix ts e → t.kind = .star → Postfix (ts ++ [t]) (.zeroOrMore e)
  | plus {ts : List Token} {t : Token} {e : Expr} :
      Postfix ts e → t.kind = .plus → Postfix (ts ++ [t]) (.oneOrMore e)
  | question {ts : List Token} {t : Token} {e : Expr} :
      Postfix ts e → t.kind = .question → Postfix (ts ++ [t]) (.optional e)

/-- A name, a literal, or a choice between parentheses or brackets. -/
inductive Primary : List Token → Expr → Prop
  | token {t : Token} : t.kind = .ident → NamesToken t.text → Primary [t] (.token t.text)
  | reference {t : Token} :
      t.kind = .ident → ¬ NamesToken t.text → Primary [t] (.reference t.text)
  | literal {t : Token} : t.kind = .quoted → Primary [t] (.literal (Quoted.unquote t.text))
  | parens {ts : List Token} {opening closing : Token} {e : Expr} : opening.kind = .leftParen →
      Choice ts e → closing.kind = .rightParen → Primary (opening :: (ts ++ [closing])) e
  | brackets {ts : List Token} {opening closing : Token} {e : Expr} : opening.kind = .leftBracket →
      Choice ts e → closing.kind = .rightBracket →
      Primary (opening :: (ts ++ [closing])) (.optional e)

end

theorem Primary.name {t : Token} (h : t.kind = .ident) : Primary [t] (Body.ofName t.text) := by
  unfold Body.ofName
  split
  · exact .token h ((namesToken_iff _).2 ‹_›)
  · exact .reference h (fun hn => ‹¬ _› ((namesToken_iff _).1 hn))

theorem Alternatives.ne_nil {ts : List Token} {es : List Expr} (h : Alternatives ts es) :
    es ≠ [] := by
  cases h <;> simp

/-- `Body.collapse` makes of alternatives the choice that they derive. -/
theorem Alternatives.choice {ts : List Token} {es : List Expr} (h : Alternatives ts es) :
    Choice ts (Body.collapse .choice es) := by
  match es, h with
  | [], h => exact (h.ne_nil rfl).elim
  | [_], h => exact .single h
  | _ :: _ :: _, h => exact .several h (by simp)

theorem Choice.alternatives {ts : List Token} {e : Expr} (h : Choice ts e) :
    ∃ es, Alternatives ts es ∧ e = Body.collapse .choice es := by
  cases h with
  | single h => exact ⟨_, h, rfl⟩
  | @several _ es h hlen =>
      match es, h, hlen with
      | _ :: _ :: _, h, _ => exact ⟨_, h, rfl⟩

theorem Items.sequence {ts : List Token} {es : List Expr} (h : Items ts es) :
    Sequence ts (Body.collapse .sequence es) := by
  match es, h with
  | [], h => exact .several h (by simp)
  | [_], h => exact .single h
  | _ :: _ :: _, h => exact .several h (by simp)

theorem Sequence.items {ts : List Token} {e : Expr} (h : Sequence ts e) :
    ∃ es, Items ts es ∧ e = Body.collapse .sequence es := by
  cases h with
  | single h => exact ⟨_, h, rfl⟩
  | @several _ es h hlen =>
      match es, h, hlen with
      | [], h, _ => exact ⟨_, h, rfl⟩
      | _ :: _ :: _, h, _ => exact ⟨_, h, rfl⟩

theorem Items.concat {ts us : List Token} {es : List Expr} {e : Expr} (h : Items ts es)
    (he : Postfix us e) : Items (ts ++ us) (es ++ [e]) := by
  induction es generalizing ts with
  | nil =>
      cases h
      simpa using Items.cons he .nil
  | cons _ _ ih =>
      cases h with
      | cons hp hi =>
          rw [List.append_assoc]
          exact .cons hp (ih hi)

/-- The last item and the ones before it have tokens of their own. -/
theorem Items.of_concat {ts : List Token} {es : List Expr} {e : Expr} (h : Items ts (es ++ [e])) :
    ∃ us vs, ts = us ++ vs ∧ Items us es ∧ Postfix vs e := by
  induction es generalizing ts with
  | nil =>
      cases h with
      | cons hp hi =>
          cases hi
          exact ⟨[], _, by simp, .nil, hp⟩
  | cons _ _ ih =>
      cases h with
      | cons hp hi =>
          obtain ⟨us, vs, rfl, hus, hvs⟩ := ih hi
          exact ⟨_, vs, by simp, .cons hp hus, hvs⟩

/-! ## What the tokens of a body are not -/

/-- A property of all tokens that a body consists of, given that its own parts have it. -/
theorem enclosed {p : Token → Prop} {ts : List Token} {opening closing : Token} (ho : p opening)
    (h : ∀ t ∈ ts, p t) (hc : p closing) : ∀ t ∈ opening :: (ts ++ [closing]), p t := by
  intro t ht
  simp only [List.mem_cons, List.mem_append, List.not_mem_nil, or_false] at ht
  rcases ht with rfl | ht | rfl
  · exact ho
  · exact h t ht
  · exact hc

theorem extended {p : Token → Prop} {ts : List Token} {last : Token} (h : ∀ t ∈ ts, p t)
    (hl : p last) : ∀ t ∈ ts ++ [last], p t := by
  intro t ht
  rcases List.mem_append.1 ht with ht | ht
  · exact h t ht
  · exact List.mem_singleton.1 ht ▸ hl

mutual

/-- No body has a `::=` in it, at any depth. -/
theorem Choice.no_define {ts : List Token} {e : Expr} : Choice ts e → ∀ t ∈ ts, t.kind ≠ .define
  | .single h => h.no_define
  | .several h _ => h.no_define

theorem Alternatives.no_define {ts : List Token} {es : List Expr} :
    Alternatives ts es → ∀ t ∈ ts, t.kind ≠ .define
  | .last h => h.no_define
  | .next hs hbar ha => by
      have hs := hs.no_define
      have ha := ha.no_define
      intro t ht
      simp only [List.mem_append, List.mem_cons] at ht
      rcases ht with ht | rfl | ht
      · exact hs t ht
      · simp [hbar]
      · exact ha t ht

theorem Sequence.no_define {ts : List Token} {e : Expr} :
    Sequence ts e → ∀ t ∈ ts, t.kind ≠ .define
  | .single h => h.no_define
  | .several h _ => h.no_define

theorem Items.no_define {ts : List Token} {es : List Expr} :
    Items ts es → ∀ t ∈ ts, t.kind ≠ .define
  | .nil => by simp
  | .cons hp hi => by
      have hp := hp.no_define
      have hi := hi.no_define
      intro t ht
      exact (List.mem_append.1 ht).elim (hp t) (hi t)

theorem Postfix.no_define {ts : List Token} {e : Expr} :
    Postfix ts e → ∀ t ∈ ts, t.kind ≠ .define
  | .primary h => h.no_define
  | .star h hop => extended h.no_define (by simp [hop])
  | .plus h hop => extended h.no_define (by simp [hop])
  | .question h hop => extended h.no_define (by simp [hop])

theorem Primary.no_define {ts : List Token} {e : Expr} :
    Primary ts e → ∀ t ∈ ts, t.kind ≠ .define
  | .token h _ => by simp [h]
  | .reference h _ => by simp [h]
  | .literal h => by simp [h]
  | .parens ho h hc => enclosed (by simp [ho]) h.no_define (by simp [hc])
  | .brackets ho h hc => enclosed (by simp [ho]) h.no_define (by simp [hc])

end

/-! ## Dropping a name at the end -/

theorem Primary.eq_nil_of_concat_name {ts us : List Token} {e : Expr} {t : Token}
    (h : Primary ts e) (heq : ts = us ++ [t]) (ht : t.kind = .ident) : us = [] := by
  have hlast : ts.getLast? = some t := by simp [heq]
  cases h with
  | token => simpa using congrArg List.length heq
  | reference => simpa using congrArg List.length heq
  | literal => simpa using congrArg List.length heq
  | parens _ _ hc =>
      rw [← List.cons_append, List.getLast?_concat, Option.some.injEq] at hlast
      simp [hlast, ht] at hc
  | brackets _ _ hc =>
      rw [← List.cons_append, List.getLast?_concat, Option.some.injEq] at hlast
      simp [hlast, ht] at hc

theorem Postfix.eq_nil_of_concat_name {ts us : List Token} {e : Expr} {t : Token}
    (h : Postfix ts e) (heq : ts = us ++ [t]) (ht : t.kind = .ident) : us = [] := by
  cases h with
  | primary h => exact h.eq_nil_of_concat_name heq ht
  | star _ hop => simp_all [(List.append_singleton_inj.1 heq).2]
  | plus _ hop => simp_all [(List.append_singleton_inj.1 heq).2]
  | question _ hop => simp_all [(List.append_singleton_inj.1 heq).2]

/-- A name at the end of a sequence is an item of its own, so the sequence can do without it. -/
theorem Items.drop_name {ts us : List Token} {es : List Expr} {t : Token} (h : Items ts es)
    (heq : ts = us ++ [t]) (ht : t.kind = .ident) : ∃ es', Items us es' := by
  induction es generalizing ts us with
  | nil => cases h; simp at heq
  | cons _ _ ih =>
      cases h with
      | @cons vs ws _ _ hp hi =>
          rcases List.eq_nil_or_concat ws with rfl | ⟨ws, last, rfl⟩
          · rw [List.append_nil] at heq
            exact ⟨[], hp.eq_nil_of_concat_name heq ht ▸ .nil⟩
          · rw [List.concat_eq_append] at heq hi
            rw [← List.append_assoc] at heq
            obtain ⟨rfl, rfl⟩ := List.append_singleton_inj.1 heq
            obtain ⟨es', h'⟩ := ih hi rfl
            exact ⟨_, .cons hp h'⟩

theorem Alternatives.drop_name {ts us : List Token} {es : List Expr} {t : Token}
    (h : Alternatives ts es) (heq : ts = us ++ [t]) (ht : t.kind = .ident) :
    ∃ es', Alternatives us es' := by
  have dropLast {vs ws : List Token} {e : Expr} (hs : Sequence vs e) (heq : vs = ws ++ [t]) :
      ∃ e', Sequence ws e' := by
    obtain ⟨_, hi, -⟩ := hs.items
    obtain ⟨_, hi'⟩ := hi.drop_name heq ht
    exact ⟨_, hi'.sequence⟩
  induction es generalizing ts us with
  | nil => exact (h.ne_nil rfl).elim
  | cons _ _ ih =>
      cases h with
      | last hs =>
          obtain ⟨e', hs'⟩ := dropLast hs heq
          exact ⟨[e'], .last hs'⟩
      | @next vs ws bar _ _ hs hbar ha =>
          rcases List.eq_nil_or_concat ws with rfl | ⟨ws, last, rfl⟩
          · obtain ⟨-, rfl⟩ := List.append_singleton_inj.1 heq
            simp [hbar] at ht
          · rw [List.concat_eq_append] at heq ha
            rw [← List.cons_append, ← List.append_assoc] at heq
            obtain ⟨rfl, rfl⟩ := List.append_singleton_inj.1 heq
            obtain ⟨es', h'⟩ := ih ha rfl
            exact ⟨_, .next hs hbar h'⟩

theorem Choice.drop_name {ts : List Token} {e : Expr} {t : Token} (h : Choice (ts ++ [t]) e)
    (ht : t.kind = .ident) : ∃ e', Choice ts e' := by
  obtain ⟨_, ha, -⟩ := h.alternatives
  obtain ⟨_, ha'⟩ := ha.drop_name rfl ht
  exact ⟨_, ha'.choice⟩

/-! ## Files -/

/-- The byte at which the last of the tokens ends, or `stop` if there is none. -/
def lastStop (stop : Nat) (ts : List Token) : Nat := ts.foldl (fun _ t => t.span.stop) stop

@[simp] theorem lastStop_nil (stop : Nat) : lastStop stop [] = stop := rfl

@[simp] theorem lastStop_cons (stop : Nat) (t : Token) (ts : List Token) :
    lastStop stop (t :: ts) = lastStop t.span.stop ts := rfl

@[simp] theorem lastStop_append (stop : Nat) (ts us : List Token) :
    lastStop stop (ts ++ us) = lastStop (lastStop stop ts) us := List.foldl_append ..

/-- From the start of the first token to the end of the last. -/
def spanOf : List Token → Span
  | [] => ⟨0, 0⟩
  | t :: ts => ⟨t.span.start, lastStop t.span.stop ts⟩

theorem lastStop_of_ne_nil {ts : List Token} (h : ts ≠ []) (a b : Nat) :
    lastStop a ts = lastStop b ts := by
  cases ts with
  | nil => exact (h rfl).elim
  | cons => rfl

/-- The word that makes a rule private. -/
def IsPrivateWord (t : Token) : Prop := t.kind = .ident ∧ t.text = "private"

/-- A name, `::=` and a body. -/
inductive Definition : List Token → String → Expr → Prop
  | mk {name define : Token} {body : List Token} {e : Expr} : name.kind = .ident →
      define.kind = .define → Choice body e → Definition (name :: define :: body) name.text e

theorem Definition.ne_nil {core : List Token} {name : String} {e : Expr}
    (h : Definition core name e) : core ≠ [] := by
  cases h
  simp

/-- A semicolon, or nothing. -/
inductive Separator : List Token → Prop
  | absent : Separator []
  | present {t : Token} : t.kind = .semicolon → Separator [t]

/-- What stands for a rule. The semicolon after it is not part of its span. -/
inductive RuleText : List Token → Rule → Prop
  | plain {core stop : List Token} {name : String} {e : Expr} : Definition core name e →
      Separator stop → RuleText (core ++ stop) ⟨name, false, e, spanOf core⟩
  | modified {word : Token} {core stop : List Token} {name : String} {e : Expr} :
      IsPrivateWord word → Definition core name e → Separator stop →
      RuleText (word :: (core ++ stop)) ⟨name, true, e, spanOf (word :: core)⟩

/-- The value of a setting is a literal, of which the text counts, or a name. -/
inductive Value : Token → String → Prop
  | literal {t : Token} : t.kind = .quoted → Value t (Quoted.unquote t.text)
  | name {t : Token} : t.kind = .ident → Value t t.text

/-- The settings of an attribute block, with semicolons anywhere between them. -/
inductive Entries : List Token → List (String × String) → Prop
  | nil : Entries [] []
  | separator {t : Token} {ts : List Token} {pairs : List (String × String)} :
      t.kind = .semicolon → Entries ts pairs → Entries (t :: ts) pairs
  | setting {key equals value : Token} {ts : List Token} {text : String}
      {pairs : List (String × String)} : key.kind = .ident → equals.kind = .equals →
      Value value text → Entries ts pairs →
      Entries (key :: equals :: value :: ts) ((key.text, text) :: pairs)

/-- Attribute blocks, semicolons and rules. A rule may stand in front of the tokens `us` only if
`fits` holds of its own tokens and `us`. -/
inductive File (fits : List Token → List Token → Prop) :
    List Token → List (String × String) → List Rule → Prop
  | nil : File fits [] [] []
  | block {opening closing : Token} {ts us : List Token} {pairs more : List (String × String)}
      {rules : List Rule} : opening.kind = .leftBrace → Entries ts pairs →
      closing.kind = .rightBrace → File fits us more rules →
      File fits (opening :: (ts ++ closing :: us)) (pairs ++ more) rules
  | separator {t : Token} {us : List Token} {pairs : List (String × String)} {rules : List Rule} :
      t.kind = .semicolon → File fits us pairs rules → File fits (t :: us) pairs rules
  | rule {ts us : List Token} {pairs : List (String × String)} {r : Rule} {rules : List Rule} :
      RuleText ts r → fits ts us → File fits us pairs rules →
        File fits (ts ++ us) pairs (r :: rules)

/-- No restriction: all derivations of the grammar. -/
def Unrestricted : List Token → List Token → Prop := fun _ _ => True

/-- A name and `::=` come first. -/
def StartsNamed (ts : List Token) : Prop :=
  ∃ name define rest, ts = name :: define :: rest ∧ name.kind = .ident ∧ define.kind = .define

/-- A `private` directly in front of a name and `::=` is not part of the rule before it. -/
def LeavesModifier (ts us : List Token) : Prop :=
  StartsNamed us → ∀ t ∈ ts.getLast?, ¬ IsPrivateWord t

theorem LeavesModifier.cons {t : Token} {ts us : List Token} (hts : ts ≠ [])
    (h : LeavesModifier ts us) : LeavesModifier (t :: ts) us := by
  intro hus u hu
  cases ts with
  | nil => exact (hts rfl).elim
  | cons v ts => exact h hus u (by simpa using hu)

theorem LeavesModifier.of_cons {t u : Token} {ts us : List Token}
    (h : LeavesModifier (t :: u :: ts) us) : LeavesModifier (u :: ts) us := h

end GrammarForge.Derived
