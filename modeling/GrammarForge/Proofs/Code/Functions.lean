import GrammarForge.Proofs.Code.Spelling

/-!
# Generated functions are read back

A function has a condition for a body. If it closes a node, the condition stands in a frame that
marks the position first, and then either closes the node or goes back to the mark.
-/

namespace GrammarForge.Code

structure Function where
  name : String
  body : Condition
  /-- The type of the node that a match closes. -/
  element : Option String

/-- The lexemes of `(b: &mut impl Builder) -> bool {`. -/
def signatureLexemes : List Lexeme :=
  [.sign "(", .word "b", .sign ":", .sign "&", .word "mut", .word "impl", .word "Builder",
    .sign ")", .sign "->", .word "bool", .sign "\x7b"]

/-- The lexemes of `let m = b.mark(); let r =`. -/
def openingLexemes : List Lexeme := markLexemes ++ [.word "let", .word "r", .sign "="]

/-- The lexemes of `; if r { b.done(m, ElementType::`. -/
def matchedLexemes : List Lexeme :=
  [.sign ";", .word "if", .word "r", .sign "\x7b", .word "b", .sign ".", .word "done", .sign "(",
    .word "m", .sign ",", .word "ElementType", .sign "::"]

/-- The lexemes of `); } else { b.rollback(m); } r`. -/
def closingLexemes : List Lexeme :=
  [.sign ")", .sign ";", .sign "\x7d", .word "else", .sign "\x7b"] ++ rollbackLexemes ++
    [.sign "\x7d", .word "r"]

namespace Function

/-- Read what comes after the signature. -/
def readRest (n : Nat) (name : String) (ls : List Lexeme) : Option Function :=
  match after? openingLexemes ls with
  | some rest => do
    let (parts, rest) ← readDisjuncts n rest
    let rest ← after? matchedLexemes rest
    match rest with
    | .word element :: rest =>
      let rest ← after? (closingLexemes ++ [.sign "\x7d"]) rest
      if rest.isEmpty then return ⟨name, .collapse .any parts, some element⟩ else none
    | _ => none
  | none => do
    match ← readBody n ls with
    | ([], some body, []) => return ⟨name, body, none⟩
    | _ => none

/-- The function that a text is the code of. -/
def ofCode? (code : String) : Option Function := do
  let ls ← lex code
  let rest ← after? [.word "pub", .word "fn"] ls
  match rest with
  | .word name :: rest =>
    let rest ← after? signatureLexemes rest
    readRest (4 * ls.length + 3) name rest
  | _ => none

/-- The lexemes after the signature. -/
def restLexemes (f : Function) : List Lexeme :=
  match f.element with
  | none => f.body.lexemes ++ [.sign "\x7d"]
  | some element =>
    openingLexemes ++ (f.body.lexemes ++
      (matchedLexemes ++ (.word element :: (closingLexemes ++ [.sign "\x7d"]))))

def lexemes (f : Function) : List Lexeme :=
  [.word "pub", .word "fn", .word f.name] ++ signatureLexemes ++ f.restLexemes

/-- The code of a function keeps to the rules of the language. -/
structure IsReadable (f : Function) : Prop where
  name : IsWord f.name.toList
  body : f.body.IsReadable
  binding : 3 ≤ f.body.binding
  element : ∀ element ∈ f.element, IsWord element.toList

theorem readRest_restLexemes {f : Function} (h : f.IsReadable) {n : Nat}
    (hn : 4 * f.restLexemes.length + 3 ≤ n) : readRest n f.name f.restLexemes = some f := by
  obtain ⟨name, body, element⟩ := f
  have hbody := body.readsBack h.body
  cases element with
  | none =>
      have hread := hbody.value h.binding n [] (by simp [restLexemes] at hn; omega)
      have hopening : after? openingLexemes (body.lexemes ++ [.sign "\x7d"]) = none :=
        after?_of_head? (Condition.head?_ne h.binding (by decide) _)
      simp [readRest, restLexemes, hopening, hread]
  | some element =>
      simp only [restLexemes, List.length_append] at hn
      obtain ⟨parts, hread, hparts⟩ := hbody.condition n
        (matchedLexemes ++ (.word element :: (closingLexemes ++ [.sign "\x7d"])))
        (by simp [matchedLexemes]) (by simp [matchedLexemes]) (by omega)
      have hclosing : after? (closingLexemes ++ [.sign "\x7d"])
          (closingLexemes ++ [.sign "\x7d"]) = some [] := by
        have hafter := after?_append (closingLexemes ++ [.sign "\x7d"]) []
        rwa [List.append_nil] at hafter
      simp [readRest, restLexemes, after?_append, hread, hparts, hclosing]

theorem ofCode?_of_closes {f : Function} (h : f.IsReadable) {code : String}
    (hcode : Closes code f.lexemes) : ofCode? code = some f := by
  have hlex := lex_eq_some hcode.lexes
  have hlength : f.restLexemes.length ≤ f.lexemes.length := by
    simp only [lexemes, List.length_append]
    omega
  have hread := readRest_restLexemes h
    (show 4 * f.restLexemes.length + 3 ≤ 4 * f.lexemes.length + 3 by omega)
  simp only [ofCode?, hlex, Option.bind_eq_bind, Option.bind_some]
  rw [lexemes] at hread ⊢
  simpa [after?, after?_append] using hread

end Function

theorem closes_indentation (level : Nat) :
    Closes (String.join (List.replicate level indentation)) [] := by
  induction level with
  | zero => rfl
  | succ level ih =>
      have hstep : Closes indentation [] := rfl
      rw [List.replicate_succ, String.join_cons]
      exact hstep.append ih

theorem Lexes.line {s : String} {ls : List Lexeme} (h : Lexes s ls) (level : Nat) :
    Closes (layLine level s) ls := by
  have hend : Closes "\n" [] := rfl
  have hline := ((closes_indentation level).append_lexes h).closed '\n' rfl ⟨rfl, rfl⟩ hend
  rwa [List.append_nil] at hline

/-- Items have these lexemes, however far they are indented. -/
def Spells (items : List Item) (ls : List Lexeme) : Prop :=
  ∀ level, Closes (layItems level items).1 ls

theorem Spells.nil : Spells [] [] := fun _ => rfl

theorem Spells.line {text : String} {ls ms : List Lexeme} {rest : List Item} (h : Lexes text ls)
    (hrest : Spells rest ms) : Spells (.line text :: rest) (ls ++ ms) :=
  fun level => (h.line level).append (hrest level)

theorem Spells.block {header : String} {body : List Item} {ls ms : List Lexeme}
    (hheader : Lexes (header ++ " \x7b") ls) (hbody : Spells body ms) (level : Nat) :
    Closes ((Item.block header body).lay level).1 (ls ++ ms ++ [.sign "\x7d"]) := by
  have hclose : Lexes "\x7d" [.sign "\x7d"] := Closes.lexes rfl
  exact ((hheader.line level).append (hbody (level + 1))).append (hclose.line _)

theorem Spells.branch {condition : String} {body other rest : List Item}
    {ls ms us vs : List Lexeme} (htest : Lexes ("if " ++ condition ++ " \x7b") ls)
    (hbody : Spells body ms) (hother : Spells other us) (hrest : Spells rest vs) :
    Spells (.branch condition body other :: rest)
      (ls ++ ms ++ [.sign "\x7d", .word "else", .sign "\x7b"] ++ us ++ [.sign "\x7d"] ++ vs) := by
  intro level
  have helse : Lexes "\x7d else \x7b" [.sign "\x7d", .word "else", .sign "\x7b"] :=
    Closes.lexes rfl
  have hclose : Lexes "\x7d" [.sign "\x7d"] := Closes.lexes rfl
  have hfirst := (htest.line level).append (hbody (level + 1))
  exact (((hfirst.append (helse.line _)).append (hother _)).append (hclose.line _)).append (hrest _)

namespace RuleFunction

/-- The text of the function, without its documentation. -/
def code (f : RuleFunction) (level : Nat) : String :=
  ((Item.block s!"pub fn {f.name}(b: &mut impl Builder) -> bool" f.bodyItems).lay level).1

/-- What the function is as a piece of code. -/
def toFunction (f : RuleFunction) : Function := ⟨f.name, f.body, f.element⟩

theorem lexes_header {name : String} (h : IsWord name.toList) :
    Lexes ("pub fn " ++ name ++ "(b: &mut impl Builder) -> bool" ++ " \x7b")
      (.word "pub" :: .word "fn" :: .word name :: signatureLexemes) := by
  have hpub : Closes "pub fn " [.word "pub", .word "fn"] := rfl
  have hsignature : Closes ("(b: &mut impl Builder) -> bool" ++ " \x7b") signatureLexemes := rfl
  rw [String.append_assoc]
  exact ((hpub.append_lexes (lexes_word h)).closed '(' rfl ⟨rfl, rfl⟩ hsignature).lexes

/-- The frame of a function that closes a node. -/
theorem spells_frame {body : Condition} {element : String} (hbody : body.IsReadable)
    (helement : IsWord element.toList) :
    Spells [.line "let m = b.mark();", .line ("let r = " ++ body.code ++ ";"),
        .branch "r" [.line ("b.done(m, ElementType::" ++ element ++ ");")]
          [.line "b.rollback(m);"], .line "r"]
      (openingLexemes ++ body.lexemes ++ matchedLexemes ++ .word element :: closingLexemes) := by
  have hmark : Lexes "let m = b.mark();" markLexemes := Closes.lexes rfl
  have hlet : Closes "let r = " [.word "let", .word "r", .sign "="] := rfl
  have hend : Closes ";" [.sign ";"] := rfl
  have hresult := (hlet.append_lexes (body.lexes_code hbody)).closed ';' rfl ⟨rfl, rfl⟩ hend
  have htest : Lexes ("if " ++ "r" ++ " \x7b") [.word "if", .word "r", .sign "\x7b"] :=
    Closes.lexes rfl
  have hdone : Closes "b.done(m, ElementType::" (matchedLexemes.drop 4) := rfl
  have hdoneEnd : Closes ");" [.sign ")", .sign ";"] := rfl
  have hclosed := (hdone.append_lexes (lexes_word helement)).closed ')' rfl ⟨rfl, rfl⟩ hdoneEnd
  have hrollback : Lexes "b.rollback(m);" rollbackLexemes := Closes.lexes rfl
  have hr : Lexes "r" [.word "r"] := lexes_word ⟨'r', [], rfl, rfl, by simp⟩
  have hframe := Spells.line hmark (.line hresult.lexes
    (.branch htest (.line hclosed.lexes .nil) (.line hrollback .nil) (.line hr .nil)))
  simpa [openingLexemes, matchedLexemes, closingLexemes] using hframe

theorem closes_code {f : RuleFunction} (h : f.toFunction.IsReadable) (level : Nat) :
    Closes (f.code level) f.toFunction.lexemes := by
  obtain ⟨rule, name, body, element⟩ := f
  have hheader := lexes_header h.name
  unfold code
  cases element with
  | none =>
      have hcode := Spells.block hheader (.line (body.lexes_code h.body) .nil) level
      simpa [toFunction, Function.lexemes, Function.restLexemes, bodyItems, toString] using hcode
  | some element =>
      have hcode := Spells.block hheader (spells_frame h.body (h.element element rfl)) level
      simpa [toFunction, Function.lexemes, Function.restLexemes, bodyItems, toString] using hcode

theorem ofCode?_code {f : RuleFunction} (h : f.toFunction.IsReadable) (level : Nat) :
    Function.ofCode? (f.code level) = some f.toFunction :=
  Function.ofCode?_of_closes h (closes_code h level)

theorem isReadable_ofRule (isDefined : String → Bool) {r : Rule} (hname : IsWord r.name.toList)
    (hexpr : r.expr.IsNormal) : (ofRule isDefined r).toFunction.IsReadable := by
  have hbody := Condition.isReadable_ofExpr isDefined r.expr hexpr
  refine ⟨isWord_parseFunction hname.all, hbody.1, hbody.2, ?_⟩
  intro element helement
  simp only [toFunction, ofRule] at helement
  split at helement
  · cases helement
  · cases helement
    exact isWord_elementVariant hname.all

end RuleFunction

theorem layItems_of_mem {item : Item} {items : List Item} (h : item ∈ items) (level : Nat) :
    ∃ before inner after, (layItems level items).1 = before ++ (item.lay inner).1 ++ after := by
  induction items generalizing level with
  | nil => cases h
  | cons first rest ih =>
      have hcons : (layItems level (first :: rest)).1 =
        (first.lay level).1 ++ (layItems (first.lay level).2 rest).1 := rfl
      cases h with
      | head => exact ⟨"", level, _, by rw [hcons, String.empty_append]⟩
      | tail _ h =>
          obtain ⟨before, inner, after, hrest⟩ := ih h (first.lay level).2
          refine ⟨(first.lay level).1 ++ before, inner, after, ?_⟩
          rw [hcons, hrest]
          simp [String.append_assoc]

/-- The unit holds the code of all its functions. -/
theorem ParserUnit.text_of_mem {u : ParserUnit} {f : RuleFunction} (h : f ∈ u.functions) :
    ∃ before level after, u.text = before ++ f.code level ++ after := by
  have hblock : Item.block s!"impl {u.parser}" (u.rootItems ++ u.functions.flatMap (·.items)) ∈
      u.items := by
    simp [items]
  have hcode : Item.block s!"pub fn {f.name}(b: &mut impl Builder) -> bool" f.bodyItems ∈
      u.rootItems ++ u.functions.flatMap (·.items) := by
    refine List.mem_append_right _ (List.mem_flatMap.2 ⟨f, h, ?_⟩)
    simp [RuleFunction.items]
  obtain ⟨before, level, after, htext⟩ := layItems_of_mem hblock 0
  obtain ⟨inside, inner, rest, hbody⟩ := layItems_of_mem hcode (level + 1)
  have hlay : ((Item.block s!"impl {u.parser}"
      (u.rootItems ++ u.functions.flatMap (·.items))).lay level).1 =
        layLine level (s!"impl {u.parser}" ++ " \x7b") ++
          (layItems (level + 1) (u.rootItems ++ u.functions.flatMap (·.items))).1 ++
          layLine ((layItems (level + 1)
            (u.rootItems ++ u.functions.flatMap (·.items))).2 - 1) "\x7d" := rfl
  refine ⟨before ++ (layLine level (s!"impl {u.parser}" ++ " \x7b") ++ inside), inner, rest ++
    (layLine ((layItems (level + 1)
      (u.rootItems ++ u.functions.flatMap (·.items))).2 - 1) "\x7d" ++ after), ?_⟩
  rw [text, layout, htext, hlay, hbody]
  simp [String.append_assoc, RuleFunction.code]

end GrammarForge.Code
