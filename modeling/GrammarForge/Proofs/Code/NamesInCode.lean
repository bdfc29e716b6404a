import GrammarForge.Proofs.Code.Functions

/-!
# Names in code

What code declares and what it refers to can be told from a few lexemes in a row: `fn` and a name
declare a function, and two names with `::` between them refer to a member of what the first one
names. The code of a rule declares one function. It refers to the tokens of the rule, to the
functions of the rules that are referred to, and to the element type of the rule.
-/

namespace GrammarForge.Code

/-! ## Declarations and paths -/

/-- What is found at the front of a list, and at the front of what is left of it after each
lexeme. -/
def occurrences {α : Type} (front? : List Lexeme → Option α) : List Lexeme → List α
  | [] => []
  | l :: rest => (front? (l :: rest)).toList ++ occurrences front? rest

/-- The function that is declared at this point. -/
def declaration? : List Lexeme → Option String
  | .word "fn" :: .word name :: _ => some name
  | _ => none

/-- The path of two names that stands at this point. -/
def path? : List Lexeme → Option (String × String)
  | .word owner :: .sign "::" :: .word member :: _ => some (owner, member)
  | _ => none

/-- The functions that code declares, in order. -/
def declaredFunctions (ls : List Lexeme) : List String := occurrences declaration? ls

/-- The paths in code, in order. -/
def pathsOf (ls : List Lexeme) : List (String × String) := occurrences path? ls

variable {ls ms : List Lexeme}

theorem occurrences_append {α : Type} {front? : List Lexeme → Option α}
    (h : ∀ l tail, l :: tail <:+ ls → front? (l :: tail ++ ms) = front? (l :: tail)) :
    occurrences front? (ls ++ ms) = occurrences front? ls ++ occurrences front? ms := by
  induction ls with
  | nil => rfl
  | cons l ls ih =>
      have hrest := ih fun k tail hsuffix => h k tail (hsuffix.trans (List.suffix_cons l ls))
      rw [List.cons_append, occurrences, occurrences, hrest, ← List.cons_append,
        h l ls List.suffix_rfl, List.append_assoc]

theorem getLast?_of_suffix {l : Lexeme} {tail : List Lexeme} (h : l :: tail <:+ ls) :
    ls.getLast? = (l :: tail).getLast? := by
  obtain ⟨before, rfl⟩ := h
  exact List.getLast?_append_of_ne_nil before (List.cons_ne_nil l tail)

theorem declaration?_of_ne {l : Lexeme} (h : l ≠ .word "fn") (rest : List Lexeme) :
    declaration? (l :: rest) = none := by
  unfold declaration?
  grind

theorem declaration?_append (l k : Lexeme) (rest more : List Lexeme) :
    declaration? (l :: k :: rest ++ more) = declaration? (l :: k :: rest) := by
  unfold declaration?
  grind

theorem path?_of_head?_ne (l : Lexeme) {rest : List Lexeme} (h : rest.head? ≠ some (.sign "::")) :
    path? (l :: rest) = none := by
  unfold path?
  grind

theorem path?_append (l k j : Lexeme) (rest more : List Lexeme) :
    path? (l :: k :: j :: rest ++ more) = path? (l :: k :: j :: rest) := by
  unfold path?
  grind

/-- No declaration goes over the end of the code. -/
theorem declaredFunctions_append (h : ls.getLast? ≠ some (.word "fn")) :
    declaredFunctions (ls ++ ms) = declaredFunctions ls ++ declaredFunctions ms := by
  refine occurrences_append fun l tail hsuffix => ?_
  rw [getLast?_of_suffix hsuffix] at h
  match tail with
  | [] =>
      have hne : l ≠ .word "fn" := by simpa using h
      exact (declaration?_of_ne hne ms).trans (declaration?_of_ne hne []).symm
  | k :: rest => exact declaration?_append l k rest ms

/-- No path goes over the end of the code. -/
theorem pathsOf_append (hls : ls.getLast? ≠ some (.sign "::"))
    (hms : ms.head? ≠ some (.sign "::")) : pathsOf (ls ++ ms) = pathsOf ls ++ pathsOf ms := by
  refine occurrences_append fun l tail hsuffix => ?_
  rw [getLast?_of_suffix hsuffix] at hls
  match tail with
  | [] => exact (path?_of_head?_ne l hms).trans (path?_of_head?_ne l (by simp)).symm
  | [k] =>
      have hne : k ≠ .sign "::" := by simpa using hls
      exact (path?_of_head?_ne l (by simpa using hne)).trans
        (path?_of_head?_ne l (by simpa using hne)).symm
  | k :: j :: rest => exact path?_append l k j rest ms

/-! ## Pieces of code -/

/-- A piece of code declares these functions and has these paths, and neither a declaration nor a
path goes over its ends. -/
structure Names (ls : List Lexeme) (functions : List String) (paths : List (String × String)) :
    Prop where
  head : ls.head? ≠ some (.sign "::")
  last : ls.getLast? ≠ some (.sign "::") ∧ ls.getLast? ≠ some (.word "fn")
  functions : declaredFunctions ls = functions
  paths : pathsOf ls = paths

namespace Names

theorem nil : Names [] [] [] := ⟨by decide, by decide, rfl, rfl⟩

theorem append {functions more : List String} {paths others : List (String × String)}
    (hls : Names ls functions paths) (hms : Names ms more others) :
    Names (ls ++ ms) (functions ++ more) (paths ++ others) := by
  refine ⟨?_, ?_, ?_, ?_⟩
  · cases ls with
    | nil => exact hms.head
    | cons l ls => exact hls.head
  · cases ms with
    | nil =>
        rw [List.append_nil]
        exact hls.last
    | cons m ms =>
        rw [List.getLast?_append_of_ne_nil ls (List.cons_ne_nil m ms)]
        exact hms.last
  · rw [declaredFunctions_append hls.last.2, hls.functions, hms.functions]
  · rw [pathsOf_append hls.last.1 hms.head, hls.paths, hms.paths]

theorem flatMap {α : Type} {lexemes : α → List Lexeme} {functions : α → List String}
    {paths : α → List (String × String)} {as : List α}
    (h : ∀ a ∈ as, Names (lexemes a) (functions a) (paths a)) :
    Names (as.flatMap lexemes) (as.flatMap functions) (as.flatMap paths) := by
  induction as with
  | nil => exact nil
  | cons a as ih =>
      rw [List.flatMap_cons, List.flatMap_cons, List.flatMap_cons]
      exact (h a (by simp)).append (ih fun b hb => h b (by simp [hb]))

end Names

/-! ## Conditions -/

mutual

/-- The paths in the code of a condition. -/
def Condition.paths : Condition → List (String × String)
  | .truth _ | .consumeText _ | .atMark => []
  | .consume variant => [("TokenType", variant)]
  | .call function => [("Self", function)]
  | .negation operand => operand.paths
  | .all parts | .any parts => Condition.pathsIn parts
  | .parens inner => inner.paths
  | .block body value => Statement.pathsIn body ++ value.paths
  | .branch test value other => test.paths ++ (value.paths ++ other.paths)

def Condition.pathsIn : List Condition → List (String × String)
  | [] => []
  | part :: rest => part.paths ++ Condition.pathsIn rest

def Statement.paths : Statement → List (String × String)
  | .mark | .rollback => []
  | .ignore condition | .breakIf condition => condition.paths
  | .loop body => Statement.pathsIn body

def Statement.pathsIn : List Statement → List (String × String)
  | [] => []
  | statement :: rest => statement.paths ++ Statement.pathsIn rest

end

/-- One lexeme that is part of no path and no declaration. -/
theorem Names.single {l : Lexeme} (hsign : l ≠ .sign "::") (hword : l ≠ .word "fn") :
    Names [l] [] [] := by
  refine ⟨by simpa using hsign, by simpa using ⟨hsign, hword⟩, ?_, ?_⟩
  · simp [declaredFunctions, occurrences, declaration?_of_ne hword]
  · have hnone : path? [l] = none := path?_of_head?_ne l (by simp)
    simp [pathsOf, occurrences, hnone]

theorem names_consume (variant : String) :
    Names (Condition.consume variant).lexemes [] [("TokenType", variant)] := by
  refine ⟨by simp [Condition.lexemes, consumeLexemes], by simp [Condition.lexemes], ?_, ?_⟩
  · simp [Condition.lexemes, consumeLexemes, declaredFunctions, occurrences, declaration?]
  · simp [Condition.lexemes, consumeLexemes, pathsOf, occurrences, path?]

theorem names_call (function : String) :
    Names (Condition.call function).lexemes [] [("Self", function)] := by
  refine ⟨by simp [Condition.lexemes], by simp [Condition.lexemes], ?_, ?_⟩
  · simp [Condition.lexemes, declaredFunctions, occurrences, declaration?]
  · simp [Condition.lexemes, pathsOf, occurrences, path?]

theorem names_mark : Names markLexemes [] [] := ⟨by decide, by decide, rfl, rfl⟩

theorem names_rollback : Names rollbackLexemes [] [] := ⟨by decide, by decide, rfl, rfl⟩

mutual

/-- A condition declares nothing. -/
theorem Condition.names_lexemes : (c : Condition) → Names c.lexemes [] c.paths
  | .truth value => by cases value <;> exact .single (by decide) (by decide)
  | .consume variant => names_consume variant
  | .consumeText text => by
      have hopen : Names consumeTextLexemes [] [] := ⟨by decide, by decide, rfl, rfl⟩
      have htext : Names [.text text] [] [] := .single (by simp) (by simp)
      have hclose : Names [.sign ")"] [] [] := .single (by decide) (by decide)
      exact hopen.append (htext.append hclose)
  | .call function => names_call function
  | .atMark => ⟨by decide, by decide, rfl, rfl⟩
  | .negation operand => by
      have hsign : Names [.sign "!"] [] [] := .single (by decide) (by decide)
      exact hsign.append operand.names_lexemes
  | .all parts => Condition.names_joined (.single (by decide) (by decide)) parts
  | .any parts => Condition.names_joined (.single (by decide) (by decide)) parts
  | .parens inner => by
      have hopen : Names [.sign "("] [] [] := .single (by decide) (by decide)
      have hclose : Names [.sign ")"] [] [] := .single (by decide) (by decide)
      simpa [Condition.lexemes, Condition.paths] using
        hopen.append (inner.names_lexemes.append hclose)
  | .block body value => by
      have hopen : Names [.sign "\x7b"] [] [] := .single (by decide) (by decide)
      have hclose : Names [.sign "\x7d"] [] [] := .single (by decide) (by decide)
      have hbody := Statement.names_sequence body
      simpa [Condition.lexemes, Condition.paths] using
        hopen.append (hbody.append (value.names_lexemes.append hclose))
  | .branch test value other => by
      have hif : Names [.word "if"] [] [] := .single (by decide) (by decide)
      have helse : Names [.word "else"] [] [] := .single (by decide) (by decide)
      simpa [Condition.lexemes, Condition.paths] using hif.append
        (test.names_lexemes.append (value.names_lexemes.append (helse.append other.names_lexemes)))

theorem Condition.names_joined {sign : Lexeme} (hsign : Names [sign] [] []) :
    (parts : List Condition) →
      Names (Condition.joinedLexemes sign parts) [] (Condition.pathsIn parts)
  | [] => .nil
  | [part] => by simpa [Condition.joinedLexemes, Condition.pathsIn] using part.names_lexemes
  | part :: next :: rest => by
      have hrest := Condition.names_joined hsign (next :: rest)
      rw [Condition.joinedLexemes, Condition.pathsIn]
      simpa using part.names_lexemes.append (hsign.append hrest)

theorem Statement.names_lexemes : (st : Statement) → Names st.lexemes [] st.paths
  | .mark => names_mark
  | .rollback => names_rollback
  | .ignore condition => by
      have hopen : Names ignoreLexemes [] [] := ⟨by decide, by decide, rfl, rfl⟩
      have hclose : Names [.sign ";"] [] [] := .single (by decide) (by decide)
      simpa [Statement.lexemes, Statement.paths] using
        hopen.append (condition.names_lexemes.append hclose)
  | .loop body => by
      have hopen : Names [.word "loop", .sign "\x7b"] [] [] := ⟨by decide, by decide, rfl, rfl⟩
      have hclose : Names [.sign "\x7d"] [] [] := .single (by decide) (by decide)
      have hbody := Statement.names_sequence body
      simpa [Statement.lexemes, Statement.paths] using hopen.append (hbody.append hclose)
  | .breakIf condition => by
      have hif : Names [.word "if"] [] [] := .single (by decide) (by decide)
      have hbreak : Names breakLexemes [] [] := ⟨by decide, by decide, rfl, rfl⟩
      simpa [Statement.lexemes, Statement.paths] using
        hif.append (condition.names_lexemes.append hbreak)

theorem Statement.names_sequence : (body : List Statement) →
    Names (Statement.sequenceLexemes body) [] (Statement.pathsIn body)
  | [] => .nil
  | statement :: rest => statement.names_lexemes.append (Statement.names_sequence rest)

end

/-! ## Expressions -/

/-- What the code of an expression refers to: types of its tokens, and functions of defined rules
among its references. -/
def Refers (isDefined : String → Bool) (tokens references : List String) (path : String × String) :
    Prop :=
  (∃ t ∈ tokens, path = ("TokenType", tokenVariant t)) ∨
    ∃ name ∈ references, isDefined name = true ∧ path = ("Self", parseFunction name)

theorem Refers.mono {isDefined : String → Bool} {tokens references more others : List String}
    {path : String × String} (h : Refers isDefined tokens references path)
    (htokens : tokens ⊆ more) (hreferences : references ⊆ others) :
    Refers isDefined more others path := by
  rcases h with ⟨t, ht, heq⟩ | ⟨name, hname, hdefined, heq⟩
  · exact .inl ⟨t, htokens ht, heq⟩
  · exact .inr ⟨name, hreferences hname, hdefined, heq⟩

mutual

theorem Condition.refers_ofExpr (isDefined : String → Bool) : (e : Expr) →
    ∀ path ∈ (Condition.ofExpr isDefined e).paths, Refers isDefined e.tokens e.references path
  | .reference name, path, h => by
      rw [Condition.ofExpr] at h
      split at h
      · exact .inr ⟨name, List.mem_singleton_self name, ‹_›, List.mem_singleton.1 h⟩
      · cases h
  | .token name, path, h => by
      rw [Condition.ofExpr] at h
      exact .inl ⟨name, List.mem_singleton_self name, List.mem_singleton.1 h⟩
  | .literal text, path, h => by
      rw [Condition.ofExpr] at h
      cases h
  | .sequence items, path, h => by
      refine Condition.refers_ofExprs isDefined items path ?_
      rw [Condition.ofExpr] at h
      split at h
      · cases h
      · rename_i part heq
        rw [heq, Condition.pathsIn]
        exact List.mem_append_left _ h
      · simpa [Condition.attempt, Condition.paths, Statement.pathsIn, Statement.paths] using h
  | .choice alternatives, path, h => by
      refine Condition.refers_ofExprs isDefined alternatives path ?_
      rw [Condition.ofExpr] at h
      exact h
  | .optional item, path, h => by
      refine Condition.refers_ofExpr isDefined item path ?_
      rw [Condition.ofExpr] at h
      simpa [Condition.optional, Condition.paths, Statement.pathsIn, Statement.paths] using h
  | .zeroOrMore item, path, h => by
      refine Condition.refers_ofExpr isDefined item path ?_
      rw [Condition.ofExpr] at h
      simpa [Condition.repeated, Condition.paths, Condition.pathsIn, Statement.pathsIn,
        Statement.paths] using h
  | .oneOrMore item, path, h => by
      refine Condition.refers_ofExpr isDefined item path ?_
      rw [Condition.ofExpr] at h
      simpa [Condition.repeated, Condition.paths, Condition.pathsIn, Statement.pathsIn,
        Statement.paths] using h

theorem Condition.refers_ofExprs (isDefined : String → Bool) : (es : List Expr) →
    ∀ path ∈ Condition.pathsIn (Condition.ofExprs isDefined es),
      Refers isDefined (Expr.tokensOf es) (Expr.referencesOf es) path
  | [], path, h => by cases h
  | e :: rest, path, h => by
      rcases List.mem_append.1 h with hfirst | hrest
      · exact (Condition.refers_ofExpr isDefined e path hfirst).mono
          (List.subset_append_left ..) (List.subset_append_left ..)
      · exact (Condition.refers_ofExprs isDefined rest path hrest).mono
          (List.subset_append_right ..) (List.subset_append_right ..)

end

/-! ## Functions -/

namespace Function

/-- The paths in the code of a function. -/
def paths (f : Function) : List (String × String) :=
  f.body.paths ++ f.element.toList.map fun element => ("ElementType", element)

theorem names_header (name : String) :
    Names ([.word "pub", .word "fn", .word name] ++ signatureLexemes) [name] [] := by
  refine ⟨by simp, by simp [signatureLexemes], ?_, ?_⟩
  · simp [signatureLexemes, declaredFunctions, occurrences, declaration?]
  · simp [signatureLexemes, pathsOf, occurrences, path?]

theorem names_done (element : String) :
    Names (matchedLexemes ++ (.word element :: (closingLexemes ++ [.sign "\x7d"]))) []
      [("ElementType", element)] := by
  have hlast (ls : List Lexeme) : (ls ++ [Lexeme.sign "\x7d"]).getLast? = some (.sign "\x7d") :=
    List.getLast?_concat
  refine ⟨by simp [matchedLexemes], ?_, ?_, ?_⟩
  · rw [← List.cons_append, ← List.append_assoc, hlast]
    decide
  · simp [matchedLexemes, closingLexemes, rollbackLexemes, declaredFunctions, occurrences,
      declaration?]
  · simp [matchedLexemes, closingLexemes, rollbackLexemes, pathsOf, occurrences, path?]

/-- The code of a function declares the function. -/
theorem names_lexemes (f : Function) : Names f.lexemes [f.name] f.paths := by
  have hbody := f.body.names_lexemes
  have hrest : Names f.restLexemes [] f.paths := by
    unfold restLexemes paths
    cases f.element with
    | none =>
        have hclose : Names [.sign "\x7d"] [] [] := .single (by decide) (by decide)
        exact hbody.append hclose
    | some element =>
        have hopening : Names openingLexemes [] [] := ⟨by decide, by decide, rfl, rfl⟩
        exact hopening.append (hbody.append (names_done element))
  exact (names_header f.name).append hrest

end Function

end GrammarForge.Code
