import GrammarForge.Proofs.Grammar.Derivation

/-!
# Bodies are read as they derive

`Body.read` keeps the open groups on a stack. Its invariant says which tokens each level of the
stack has consumed and what they derive; reading keeps the invariant, and at the end it is a
derivation of the whole body. In the other direction every derivation drives the reader from one
level to the next, as long as no rule starts inside its tokens.
-/

namespace GrammarForge.Body

open Derived

/-! ## Where rules start -/

/-- Whether a name and `::=` come first. -/
def named : List Token → Bool
  | n :: d :: _ => n.kind = .ident && d.kind = .define
  | _ => false

theorem startsRule_cons (t : Token) (rest : List Token) :
    startsRule (t :: rest) = (named (t :: rest) || (t.text = "private" && named rest)) := by
  cases rest with
  | nil => rfl
  | cons u rest => cases rest <;> rfl

theorem named_iff (ts : List Token) : named ts = true ↔ StartsNamed ts := by
  constructor
  · intro h
    match ts, h with
    | n :: d :: rest, h => exact ⟨n, d, rest, rfl, by simpa [named] using h⟩
  · rintro ⟨n, d, rest, rfl, hn, hd⟩
    simp [named, hn, hd]

/-- No rule starts at any of the tokens `ts` when `rest` comes after them. -/
def Quiet : List Token → List Token → Prop
  | [], _ => True
  | t :: ts, rest => startsRule (t :: (ts ++ rest)) = false ∧ Quiet ts rest

@[simp] theorem quiet_nil (rest : List Token) : Quiet [] rest := trivial

@[simp] theorem quiet_cons (t : Token) (ts rest : List Token) :
    Quiet (t :: ts) rest ↔ startsRule (t :: (ts ++ rest)) = false ∧ Quiet ts rest := Iff.rfl

theorem quiet_append (ts us rest : List Token) :
    Quiet (ts ++ us) rest ↔ Quiet ts (us ++ rest) ∧ Quiet us rest := by
  induction ts with
  | nil => simp
  | cons t ts ih => simp [ih, and_assoc]

/-- Tokens without a `::=` hold no start of a rule, unless their last one is the modifier of a rule
that comes after them. -/
theorem quiet_of_no_define {ts rest : List Token} (hts : ∀ t ∈ ts, t.kind ≠ .define)
    (hrest : ∀ t ∈ rest.head?, t.kind ≠ .define)
    (hlast : StartsNamed rest → ∀ t ∈ ts.getLast?, t.text ≠ "private") : Quiet ts rest := by
  induction ts with
  | nil => trivial
  | cons t ts ih =>
      have htail := fun u hu => hts u (List.mem_cons_of_mem t hu)
      have hnamed : named (t :: (ts ++ rest)) = false := by
        match ts, rest with
        | [], [] => rfl
        | [], u :: _ => simp [named, hrest u (by simp)]
        | u :: _, _ => simp [named, htail u (by simp)]
      refine ⟨?_, ih htail fun hr u hu => hlast hr u ?_⟩
      · rw [startsRule_cons, hnamed, Bool.false_or, Bool.and_eq_false_iff]
        match ts with
        | [] =>
            by_cases hr : StartsNamed rest
            · exact .inl (by simpa using hlast hr t (by simp))
            · exact .inr (by simpa [← named_iff] using hr)
        | [u] =>
            refine .inr ?_
            match rest with
            | [] => rfl
            | v :: _ => simp [named, hrest v (by simp)]
        | u :: v :: _ => exact .inr (by simp [named, htail v (by simp)])
      · cases ts with
        | nil => simp at hu
        | cons v vs => simpa using hu

/-! ## What the stack stands for -/

/-- The kind of token that opens a group. -/
def Group.openingKind : Group → TokenKind
  | .paren => .leftParen
  | .bracket => .leftBracket

/-- The primary expression that a group between its braces is. -/
theorem Group.primary (group : Group) {ts : List Token} {opening closing : Token} {e : Expr}
    (ho : opening.kind = group.openingKind) (h : Choice ts e)
    (hc : closing.kind = group.closingKind) :
    Primary (opening :: (ts ++ [closing])) (group.wrap e) := by
  cases group with
  | paren => exact .parens ho h hc
  | bracket => exact .brackets ho h hc

/-- Alternatives, the last one first, each with the bar after it. -/
inductive Barred : List Token → List Expr → Prop
  | nil : Barred [] []
  | concat {ts us : List Token} {bar : Token} {e : Expr} {es : List Expr} :
      Barred ts es → Sequence us e → bar.kind = .pipe → Barred (ts ++ (us ++ [bar])) (e :: es)

/-- The tokens that have been read of a level. -/
def Level.Derives (level : Level) (ts : List Token) : Prop :=
  ∃ us vs, ts = us ++ vs ∧ Barred us level.alternatives ∧ Items vs level.items.reverse

/-- The tokens in front of the innermost level. -/
inductive Enclosing : Outer → List Token → Prop
  | nil : Enclosing [] []
  | cons {outer : Outer} {group : Group} {level : Level} {ts us : List Token} {opening : Token} :
      Enclosing outer ts → level.Derives us → opening.kind = group.openingKind →
      Enclosing ((group, level) :: outer) (ts ++ (us ++ [opening]))

theorem Level.empty_derives : Level.empty.Derives [] := ⟨[], [], rfl, .nil, .nil⟩

theorem Barred.alternatives {ts us : List Token} {es es' : List Expr} (h : Barred ts es)
    (h' : Alternatives us es') : Alternatives (ts ++ us) (es.reverse ++ es') := by
  induction h generalizing us es' with
  | nil => exact h'
  | concat _ hs hbar ih =>
      have := ih (.next hs hbar h')
      simpa using this

/-- What has been read of a level is a choice. -/
theorem Level.Derives.choice {level : Level} {ts : List Token} (h : level.Derives ts) :
    Choice ts level.expr := by
  obtain ⟨us, vs, rfl, hb, hi⟩ := h
  have := (hb.alternatives (.last hi.sequence)).choice
  rwa [← List.reverse_cons] at this

theorem Level.Derives.push {level : Level} {ts us : List Token} {e : Expr} (h : level.Derives ts)
    (he : Postfix us e) : (level.push e).Derives (ts ++ us) := by
  obtain ⟨vs, ws, rfl, hb, hi⟩ := h
  refine ⟨vs, ws ++ us, by simp, hb, ?_⟩
  rw [Level.push, List.reverse_cons]
  exact hi.concat he

theorem Level.Derives.next {level : Level} {ts : List Token} {bar : Token} (h : level.Derives ts)
    (hbar : bar.kind = .pipe) : level.next.Derives (ts ++ [bar]) := by
  obtain ⟨us, vs, rfl, hb, hi⟩ := h
  exact ⟨us ++ (vs ++ [bar]), [], by simp, .concat hb hi.sequence hbar, .nil⟩

theorem postfix_of_repetition {t : Token} {op : Expr → Expr} (hop : repetition? t.kind = some op)
    {ts : List Token} {e : Expr} (h : Postfix ts e) : Postfix (ts ++ [t]) (op e) := by
  unfold repetition? at hop
  split at hop <;> cases hop
  · exact .star h ‹_›
  · exact .plus h ‹_›
  · exact .question h ‹_›

theorem Level.Derives.repetition {alternatives items : List Expr} {e : Expr} {ts : List Token}
    {t : Token} {op : Expr → Expr} (h : Level.Derives ⟨alternatives, e :: items⟩ ts)
    (hop : repetition? t.kind = some op) :
    Level.Derives ⟨alternatives, op e :: items⟩ (ts ++ [t]) := by
  obtain ⟨us, vs, rfl, hb, hi⟩ := h
  rw [List.reverse_cons] at hi
  obtain ⟨xs, ys, rfl, hx, hy⟩ := hi.of_concat
  refine ⟨us, xs ++ (ys ++ [t]), by simp, hb, ?_⟩
  rw [List.reverse_cons]
  exact hx.concat (postfix_of_repetition hop hy)

/-! ## Reading derives -/

/-- From `ts` on, a body is read to its end, of which the tokens `consumed` have been read. -/
def Completes (consumed : List Token) (stop : Nat) (ts : List Token) (r : Result) : Prop :=
  ∃ body, ts = body ++ r.rest ∧ Choice (consumed ++ body) r.expr ∧ r.stop = lastStop stop body ∧
    Quiet body r.rest

theorem Completes.step {consumed ts : List Token} {stop : Nat} {t : Token} {r : Result}
    (h : Completes (consumed ++ [t]) t.span.stop ts r) (ht : ¬ startsRule (t :: ts) = true) :
    Completes consumed stop (t :: ts) r := by
  obtain ⟨body, rfl, hc, hs, hq⟩ := h
  exact ⟨t :: body, rfl, by simpa using hc, hs, by simpa using ht, hq⟩

theorem finish_eq_ok {stop : Nat} {outer : Outer} {level : Level} {rest : List Token}
    {missing : Expected → GrammarError} {r : Result}
    (h : finish stop outer level rest missing = .ok r) :
    outer = [] ∧ r = ⟨level.expr, stop, rest⟩ := by
  unfold finish at h
  split at h <;> cases h
  exact ⟨rfl, rfl⟩

theorem Level.Derives.completes {level : Level} {before current : List Token} (stop : Nat)
    (rest : List Token) (h : level.Derives current) (ho : Enclosing [] before) :
    Completes (before ++ current) stop rest ⟨level.expr, stop, rest⟩ := by
  cases ho
  exact ⟨[], rfl, by simpa using h.choice, rfl, trivial⟩

/-- Every step keeps what the stack stands for, so a body that is read to its end derives. -/
theorem read_completes {length stop : Nat} {outer : Outer} {level : Level} {ts : List Token}
    {r : Result} (h : read length stop outer level ts = .ok r) {before current : List Token}
    (ho : Enclosing outer before) (hl : level.Derives current) :
    Completes (before ++ current) stop ts r := by
  fun_induction read length stop outer level ts generalizing before current with
  | case1 stop outer level =>
      obtain ⟨rfl, rfl⟩ := finish_eq_ok h
      exact hl.completes stop [] ho
  | case2 stop outer level t rest _ =>
      obtain ⟨rfl, rfl⟩ := finish_eq_ok h
      exact hl.completes stop (t :: rest) ho
  | case3 _ _ _ _ _ hstart hkind ih =>
      have := ih h ho (hl.push (.primary (.name hkind)))
      exact Completes.step (by simpa using this) hstart
  | case4 _ _ _ _ _ hstart hkind ih =>
      have := ih h ho (hl.push (.primary (.literal hkind)))
      exact Completes.step (by simpa using this) hstart
  | case5 _ _ _ _ _ hstart hkind ih =>
      have := ih h (.cons ho hl hkind) Level.empty_derives
      exact Completes.step (by simpa using this) hstart
  | case6 _ _ _ _ _ hstart hkind ih =>
      have := ih h (.cons ho hl hkind) Level.empty_derives
      exact Completes.step (by simpa using this) hstart
  | case7 _ _ _ _ _ hstart hkind ih =>
      have := ih h ho (hl.next hkind)
      exact Completes.step (by simpa using this) hstart
  | case8 _ _ level _ _ hstart op e items hitems _ _ _ _ _ hop ih =>
      have hl : Level.Derives ⟨level.alternatives, e :: items⟩ current := hitems ▸ hl
      have := ih h ho (hl.repetition hop)
      exact Completes.step (by simpa using this) hstart
  | case9 _ _ _ _ hstart group _ _ _ _ _ _ _ hkind _ ih =>
      cases ho with
      | cons ho henclosing hopening =>
          have := ih h ho (henclosing.push (.primary (group.primary hopening hl.choice hkind)))
          exact Completes.step (by simpa using this) hstart
  | case10 => cases h
  | case11 stop level t rest =>
      cases h
      exact hl.completes stop (t :: rest) ho

/-! ## What derives is read -/

theorem collapse_of_length_ne {join : List Expr → Expr} {es : List Expr} (h : es.length ≠ 1) :
    collapse join es = join es := by
  match es with
  | [] => rfl
  | [_] => simp at h
  | _ :: _ :: _ => rfl

section Steps

variable {length stop : Nat} {outer : Outer} {level : Level} {t : Token} {rest : List Token}

theorem read_name (hs : startsRule (t :: rest) = false) (hk : t.kind = .ident) :
    read length stop outer level (t :: rest) =
      read length t.span.stop outer (level.push (ofName t.text)) rest := by
  simp [read, hs, hk]

theorem read_quoted (hs : startsRule (t :: rest) = false) (hk : t.kind = .quoted) :
    read length stop outer level (t :: rest) =
      read length t.span.stop outer (level.push (.literal (Quoted.unquote t.text))) rest := by
  simp [read, hs, hk]

theorem read_opening (group : Group) (hs : startsRule (t :: rest) = false)
    (hk : t.kind = group.openingKind) :
    read length stop outer level (t :: rest) =
      read length t.span.stop ((group, level) :: outer) .empty rest := by
  cases group <;> simp [read, hs, hk, Group.openingKind]

theorem read_closing (group : Group) (enclosing : Level) (hs : startsRule (t :: rest) = false)
    (hk : t.kind = group.closingKind) :
    read length stop ((group, enclosing) :: outer) level (t :: rest) =
      read length t.span.stop outer (enclosing.push (group.wrap level.expr)) rest := by
  cases group <;> simp [read, hs, hk, Group.closingKind, repetition?]

theorem read_pipe (hs : startsRule (t :: rest) = false) (hk : t.kind = .pipe) :
    read length stop outer level (t :: rest) = read length t.span.stop outer level.next rest := by
  simp [read, hs, hk]

theorem read_repetition {op : Expr → Expr} {e : Expr} (hs : startsRule (t :: rest) = false)
    (hop : repetition? t.kind = some op) :
    read length stop outer (level.push e) (t :: rest) =
      read length t.span.stop outer (level.push (op e)) rest := by
  have hk : t.kind = .star ∨ t.kind = .plus ∨ t.kind = .question := by
    cases hk : t.kind <;> simp [hk, repetition?] at hop ⊢
  rcases hk with hk | hk | hk <;> simp [hk, repetition?] at hop <;>
    simp [read, hs, hk, repetition?, Level.push, hop]

/-- Outside of all groups the body ends where a rule starts, and at a token that opens a block or
separates rules. -/
theorem read_end (hrest : ∀ t ∈ rest.head?,
      startsRule rest = true ∨ t.kind = .semicolon ∨ t.kind = .leftBrace) :
    read length stop [] level rest = .ok ⟨level.expr, stop, rest⟩ := by
  match rest with
  | [] => rfl
  | t :: rest =>
      by_cases hs : startsRule (t :: rest) = true
      · simp [read, hs, finish]
      · rcases (hrest t rfl).resolve_left hs with h | h <;> simp [read, hs, h, repetition?]

theorem read_extended {ts : List Token} {op : Expr → Expr} {e : Expr}
    (hop : repetition? t.kind = some op) (hs : startsRule (t :: rest) = false)
    (h : read length stop outer level (ts ++ t :: rest) =
      read length (lastStop stop ts) outer (level.push e) (t :: rest)) :
    read length stop outer level (ts ++ [t] ++ rest) =
      read length (lastStop stop (ts ++ [t])) outer (level.push (op e)) rest := by
  rw [List.append_assoc, List.singleton_append, h, read_repetition hs hop, lastStop_append]
  rfl

theorem read_group (group : Group) {ts : List Token} {closing : Token} {e : Expr}
    (ho : t.kind = group.openingKind) (hc : closing.kind = group.closingKind)
    (hs : startsRule (t :: (ts ++ [closing] ++ rest)) = false)
    (hs' : startsRule (closing :: rest) = false)
    (h : ∃ inner, inner.expr = e ∧
      read length t.span.stop ((group, level) :: outer) .empty (ts ++ closing :: rest) =
        read length (lastStop t.span.stop ts) ((group, level) :: outer) inner (closing :: rest)) :
    read length stop outer level (t :: (ts ++ [closing]) ++ rest) =
      read length (lastStop stop (t :: (ts ++ [closing]))) outer (level.push (group.wrap e))
        rest := by
  obtain ⟨inner, rfl, hread⟩ := h
  rw [List.cons_append, read_opening group hs ho, List.append_assoc, List.singleton_append, hread,
    read_closing group level hs' hc, lastStop_cons, lastStop_append]
  rfl

end Steps

mutual

/-- A choice that derives is read to its last token, and leaves its expression on the level. -/
theorem read_choice {ts rest : List Token} {e : Expr} : Choice ts e → Quiet ts rest →
    ∀ (length stop : Nat) (outer : Outer), ∃ level, level.expr = e ∧
      read length stop outer .empty (ts ++ rest) = read length (lastStop stop ts) outer level rest
  | .single ha, hq, length, stop, outer => by
      obtain ⟨level, hlevel, hread⟩ := read_alternatives ha hq length stop outer []
      exact ⟨level, by simp [Level.expr, hlevel, collapse], hread⟩
  | .several ha hlen, hq, length, stop, outer => by
      obtain ⟨level, hlevel, hread⟩ := read_alternatives ha hq length stop outer []
      refine ⟨level, ?_, hread⟩
      rw [Level.expr, hlevel, List.append_nil, List.reverse_reverse,
        collapse_of_length_ne (by omega)]

theorem read_alternatives {ts rest : List Token} {es : List Expr} : Alternatives ts es →
    Quiet ts rest → ∀ (length stop : Nat) (outer : Outer) (alternatives : List Expr),
      ∃ level, level.current :: level.alternatives = es.reverse ++ alternatives ∧
        read length stop outer ⟨alternatives, []⟩ (ts ++ rest) =
          read length (lastStop stop ts) outer level rest
  | .last hs, hq, length, stop, outer, alternatives => by
      obtain ⟨items, hitems, hread⟩ := read_sequence hs hq length stop outer alternatives
      exact ⟨⟨alternatives, items⟩, by simp [hitems], hread⟩
  | @Alternatives.next ts us bar e es hs hbar ha, hq, length, stop, outer, alternatives => by
      rw [quiet_append, quiet_cons] at hq
      obtain ⟨items, hitems, hread⟩ := read_sequence hs hq.1 length stop outer alternatives
      obtain ⟨level, hlevel, hread'⟩ :=
        read_alternatives ha hq.2.2 length bar.span.stop outer (e :: alternatives)
      refine ⟨level, by simp [hlevel], ?_⟩
      rw [List.append_assoc, hread, List.cons_append, read_pipe hq.2.1 hbar, Level.next, hitems,
        hread', lastStop_append, lastStop_cons]

theorem read_sequence {ts rest : List Token} {e : Expr} : Sequence ts e → Quiet ts rest →
    ∀ (length stop : Nat) (outer : Outer) (alternatives : List Expr),
      ∃ items, Level.current ⟨alternatives, items⟩ = e ∧
        read length stop outer ⟨alternatives, []⟩ (ts ++ rest) =
          read length (lastStop stop ts) outer ⟨alternatives, items⟩ rest
  | .single hi, hq, length, stop, outer, alternatives =>
      ⟨[e], rfl, read_items hi hq length stop outer alternatives []⟩
  | @Sequence.several _ es hi hlen, hq, length, stop, outer, alternatives => by
      have hread := read_items hi hq length stop outer alternatives []
      refine ⟨es.reverse, ?_, by simpa using hread⟩
      rw [Level.current, List.reverse_reverse, collapse_of_length_ne hlen]

theorem read_items {ts rest : List Token} {es : List Expr} : Items ts es → Quiet ts rest →
    ∀ (length stop : Nat) (outer : Outer) (alternatives items : List Expr),
      read length stop outer ⟨alternatives, items⟩ (ts ++ rest) =
        read length (lastStop stop ts) outer ⟨alternatives, es.reverse ++ items⟩ rest
  | .nil, _, _, _, _, _, _ => rfl
  | .cons hp hi, hq, length, stop, outer, alternatives, items => by
      rw [quiet_append] at hq
      rw [List.append_assoc, read_item hp hq.1, Level.push, read_items hi hq.2, lastStop_append,
        List.reverse_cons, List.append_assoc, List.singleton_append]

theorem read_item {ts rest : List Token} {e : Expr} : Postfix ts e → Quiet ts rest →
    ∀ (length stop : Nat) (outer : Outer) (level : Level),
      read length stop outer level (ts ++ rest) =
        read length (lastStop stop ts) outer (level.push e) rest
  | .primary h, hq, length, stop, outer, level => read_primary h hq length stop outer level
  | .star h hop, hq, length, stop, outer, level => by
      rw [quiet_append] at hq
      exact read_extended (by rw [hop]; rfl) hq.2.1 (read_item h hq.1 length stop outer level)
  | .plus h hop, hq, length, stop, outer, level => by
      rw [quiet_append] at hq
      exact read_extended (by rw [hop]; rfl) hq.2.1 (read_item h hq.1 length stop outer level)
  | .question h hop, hq, length, stop, outer, level => by
      rw [quiet_append] at hq
      exact read_extended (by rw [hop]; rfl) hq.2.1 (read_item h hq.1 length stop outer level)

theorem read_primary {ts rest : List Token} {e : Expr} : Primary ts e → Quiet ts rest →
    ∀ (length stop : Nat) (outer : Outer) (level : Level),
      read length stop outer level (ts ++ rest) =
        read length (lastStop stop ts) outer (level.push e) rest
  | @Primary.token t h hn, hq, length, stop, outer, level => by
      have hname : ofName t.text = .token t.text := if_pos ((namesToken_iff _).1 hn)
      rw [← hname]
      exact read_name hq.1 h
  | @Primary.reference t h hn, hq, length, stop, outer, level => by
      have hname : ofName t.text = .reference t.text := if_neg (mt (namesToken_iff _).2 hn)
      rw [← hname]
      exact read_name hq.1 h
  | .literal h, hq, _, _, _, _ => read_quoted hq.1 h
  | @Primary.parens _ opening _ _ ho hc hclosing, hq, length, stop, outer, level => by
      rw [quiet_cons, quiet_append] at hq
      exact read_group .paren ho hclosing hq.1 hq.2.2.1
        (read_choice hc hq.2.1 length opening.span.stop ((.paren, level) :: outer))
  | @Primary.brackets _ opening _ _ ho hc hclosing, hq, length, stop, outer, level => by
      rw [quiet_cons, quiet_append] at hq
      exact read_group .bracket ho hclosing hq.1 hq.2.2.1
        (read_choice hc hq.2.1 length opening.span.stop ((.bracket, level) :: outer))

end

end GrammarForge.Body
