import GrammarForge.Proofs.Code.CommentedCode
import GrammarForge.Proofs.Code.NamesInCode
import GrammarForge.Proofs.LogicalName.RoundTrip

/-!
# Parser units are read back

The lexemes of a parser unit: the declaration that brings the types into scope, the trait, the
parser, and what is implemented for it. The unit has these lexemes if no line ends in one of its
comments.
-/

namespace GrammarForge.Code

/-! ## Declarations of a unit -/

/-- The names at the front that have `::` after them, and what comes then. -/
def readPath : List Lexeme → List String × List Lexeme
  | .word part :: .sign sign :: rest =>
    if sign = "::" then
      let (parts, last) := readPath rest
      (part :: parts, last)
    else ([], .word part :: .sign sign :: rest)
  | rest => ([], rest)

/-- Names with commas between them, up to the first sign that is none. -/
def readNames : List Lexeme → List String
  | .word name :: .sign sign :: rest => name :: if sign = "," then readNames rest else []
  | _ => []

/-- The path and the names of the declaration that code starts with, if that brings names into
scope. -/
def readUse? (ls : List Lexeme) : Option (List String × List String) := do
  let rest ← after? [.word "use"] ls
  let (path, rest) := readPath rest
  let names ← after? [.sign "\x7b"] rest
  return (path, readNames names)

/-- What comes after the head of an implementation, if that stands at this point. -/
def afterImpl? (ls : List Lexeme) : Option (List Lexeme) :=
  match after? [.word "impl"] ls with
  | some (.word _ :: rest) => after? [.sign "\x7b"] rest
  | _ => none

/-- What stands before the first implementation of a type, and what comes after its head. -/
def splitAtImpl : List Lexeme → List Lexeme × List Lexeme
  | [] => ([], [])
  | l :: rest =>
    match afterImpl? (l :: rest) with
    | some body => ([], body)
    | none => (l :: (splitAtImpl rest).1, (splitAtImpl rest).2)

/-- What is implemented. The implementation is the last thing in a unit. -/
def implementation (ls : List Lexeme) : List Lexeme := (splitAtImpl ls).2

/-- The type or trait that is declared at this point. -/
def typeDeclaration? : List Lexeme → Option String
  | .word keyword :: .word name :: _ =>
    if keyword = "struct" ∨ keyword = "trait" then some name else none
  | _ => none

/-- The types and traits that are brought into scope or declared before the first implementation. -/
def typeNames (ls : List Lexeme) : List String :=
  ((readUse? ls).map (·.2)).getD [] ++ occurrences typeDeclaration? (splitAtImpl ls).1

/-! ## The lexemes of a unit -/

/-- The lexemes of a path with `::` at its end. -/
def pathLexemes (path : List String) : List Lexeme :=
  path.flatMap fun part => [.word part, .sign "::"]

/-- The lexemes of `{ElementType, TokenType};`. -/
def importedLexemes : List Lexeme :=
  [.sign "\x7b", .word "ElementType", .sign ",", .word "TokenType", .sign "\x7d", .sign ";"]

def useLexemes (path : List String) : List Lexeme :=
  .word "use" :: (pathLexemes path ++ importedLexemes)

/-- The lexemes of a method that takes `&mut self` and what comes then. -/
def methodLexemes (name : String) (rest : List Lexeme) : List Lexeme :=
  .word "fn" :: .word name :: .sign "(" :: .sign "&" :: .word "mut" :: .word "self" :: rest

/-- The lexemes of `) -> T;`. -/
def resultLexemes (type : String) : List Lexeme :=
  [.sign ")", .sign "->", .word type, .sign ";"]

/-- The lexemes of `, name: T`, and what comes then. -/
def parameterLexemes (name type : String) (rest : List Lexeme) : List Lexeme :=
  .sign "," :: .word name :: .sign ":" :: .word type :: rest

/-- The lexemes of the methods of the trait. -/
def builderMethods : List (List Lexeme) :=
  [methodLexemes "consume" (parameterLexemes "token" "TokenType" (resultLexemes "bool")),
    methodLexemes "consume_text"
      (.sign "," :: .word "text" :: .sign ":" :: .sign "&" :: .word "str" :: resultLexemes "bool"),
    methodLexemes "mark" (resultLexemes "usize"),
    methodLexemes "rollback" (parameterLexemes "mark" "usize" [.sign ")", .sign ";"]),
    methodLexemes "done" (parameterLexemes "mark" "usize"
      (parameterLexemes "element" "ElementType" [.sign ")", .sign ";"]))]

/-- The lexemes of the head of the trait. -/
def traitLexemes : List Lexeme := [.word "pub", .word "trait", .word "Builder", .sign "\x7b"]

def builderLexemes : List Lexeme :=
  traitLexemes ++ builderMethods.flatten ++ [Lexeme.sign "\x7d"]

/-- The lexemes of `pub struct P;`. -/
def structLexemes (parser : String) : List Lexeme :=
  [.word "pub", .word "struct", .word parser, .sign ";"]

/-- The lexemes of `impl P {`. -/
def implLexemes (parser : String) : List Lexeme := [.word "impl", .word parser, .sign "\x7b"]

/-! ## Parts of a unit -/

/-- A word ends where a character comes that is in no word. -/
theorem Closes.word {s t : String} {ms : List Lexeme} (hs : IsWord s.toList) (c : Char)
    (ht : t.toList.head? = some c) (hc : Text.isIdentRest c = false) (h : Closes t ms) :
    Closes (s ++ t) (.word s :: ms) := by
  obtain ⟨rest, ht⟩ := List.head?_eq_some_iff.1 ht
  obtain ⟨first, more, hs, hfirst, hmore⟩ := hs
  have hstart : Mode.step .ready first = some (.word [first], []) := start_of_isIdentStart hfirst
  have hword := Mode.run_cons hstart (run_word [first] hmore)
  rw [Closes, ht] at h
  simp only [Mode.run, bind, Option.bind_eq_some_iff] at h
  obtain ⟨⟨middle, out⟩, hstep, ⟨_, later⟩, hlater, heq⟩ := h
  cases heq
  have hend : Mode.step (.word (more.reverse ++ [first])) c = some (middle, .word s :: out) := by
    have hread : start c = some (middle, out) := hstep
    simp [Mode.step, hc, hread, ← hs]
  rw [Closes, String.toList_append, hs, ht]
  exact Mode.run_append hword (Mode.run_cons hend hlater)

theorem closes_path {path : List String} (hpath : path ≠ [])
    (h : ∀ part ∈ path, IsWord part.toList) {t : String} {ms : List Lexeme} (ht : Closes t ms) :
    Closes ("::".intercalate path ++ "::" ++ t) (pathLexemes path ++ ms) := by
  have hsign : Closes "::" [.sign "::"] := by decide +kernel
  induction path with
  | nil => exact absurd rfl hpath
  | cons part rest ih =>
      have hpart := h part List.mem_cons_self
      cases rest with
      | nil =>
          have hline := Closes.word hpart ':' (by simp) rfl (hsign.append ht)
          rwa [← String.append_assoc] at hline
      | cons next rest =>
          have hrest := ih (by simp) fun p hp => h p (List.mem_cons_of_mem part hp)
          have hline := Closes.word hpart ':' (by simp) rfl (hsign.append hrest)
          simpa [String.intercalate_cons_cons, String.append_assoc, pathLexemes] using hline

theorem closes_use {path : List String} (hpath : path ≠ [])
    (h : ∀ part ∈ path, IsWord part.toList) :
    Closes ("use " ++ "::".intercalate path ++ "::" ++ "\x7bElementType, TokenType\x7d;")
      (useLexemes path) := by
  have huse : Closes "use " [.word "use"] := by decide +kernel
  have hnames : Closes "\x7bElementType, TokenType\x7d;" importedLexemes := by decide +kernel
  have hline := huse.append (closes_path hpath h hnames)
  rw [← String.append_assoc, ← String.append_assoc] at hline
  exact hline

theorem readAs_builder : ReadAs ParserUnit.builderItems builderLexemes := by
  have hheader : Lexes ("pub trait Builder" ++ " \x7b") traitLexemes :=
    Closes.lexes (by decide +kernel)
  have hconsume : Lexes "fn consume(&mut self, token: TokenType) -> bool;"
    (methodLexemes "consume" (parameterLexemes "token" "TokenType" (resultLexemes "bool"))) :=
    Closes.lexes (by decide +kernel)
  have hconsumeText : Lexes "fn consume_text(&mut self, text: &str) -> bool;"
    (methodLexemes "consume_text" (.sign "," :: .word "text" :: .sign ":" :: .sign "&" ::
      .word "str" :: resultLexemes "bool")) := Closes.lexes (by decide +kernel)
  have hmark : Lexes "fn mark(&mut self) -> usize;"
    (methodLexemes "mark" (resultLexemes "usize")) := Closes.lexes (by decide +kernel)
  have hrollback : Lexes "fn rollback(&mut self, mark: usize);"
    (methodLexemes "rollback" (parameterLexemes "mark" "usize" [.sign ")", .sign ";"])) :=
    Closes.lexes (by decide +kernel)
  have hdone : Lexes "fn done(&mut self, mark: usize, element: ElementType);"
    (methodLexemes "done" (parameterLexemes "mark" "usize"
      (parameterLexemes "element" "ElementType" [.sign ")", .sign ";"]))) :=
    Closes.lexes (by decide +kernel)
  rw [← List.append_nil builderLexemes]
  exact .doc (by decide) (.block hheader (.doc (by decide) (.line hconsume
    (.doc (by decide) (.line hconsumeText (.doc (by decide) (.line hmark
    (.doc (by decide) (.line hrollback (.doc (by decide) (.line hdone .nil)))))))))) .nil)

theorem readAs_header {header : Header} (hfile : '\n' ∉ header.file.toList)
    (hmodule : '\n' ∉ header.moduleName.toList) : ReadAs header.items [] := by
  have hgenerated : '\n' ∉
      ("This file is generated by gramgen from " ++ header.file ++ ". Do not edit.").toList := by
    simpa using hfile
  have hshown : '\n' ∉ ("Module: " ++ header.moduleName).toList := by simpa using hmodule
  unfold Header.items
  split
  · exact .comment hgenerated (.blank .nil)
  · exact .comment hgenerated (.comment hshown (.blank .nil))

theorem RuleFunction.readAs_items {f : RuleFunction} (h : f.toFunction.IsReadable)
    (hdoc : '\n' ∉ f.docText.toList) : ReadAs f.items f.toFunction.lexemes := by
  rw [← List.append_nil f.toFunction.lexemes]
  exact .blank (.doc hdoc (.cons (fun level => (closes_code h level).reads) .nil))

/-- The function that parses from a root rule. -/
def rootFunction (root : RuleFunction) : Function := ⟨"parse", .call root.name, none⟩

theorem readAs_root {root : RuleFunction} (hname : IsWord root.name.toList)
    (hrule : '\n' ∉ root.rule.name.toList) :
    ReadAs [.doc s!"Parse from the root rule `{root.rule.name}`.",
      .block "pub fn parse(b: &mut impl Builder) -> bool" [.line s!"Self::{root.name}(b)"]]
      (rootFunction root).lexemes := by
  have hdoc : '\n' ∉ ("Parse from the root rule `" ++ root.rule.name ++ "`.").toList := by
    simpa using hrule
  have hheader : Lexes ("pub fn parse(b: &mut impl Builder) -> bool" ++ " \x7b")
      (.word "pub" :: .word "fn" :: .word "parse" :: signatureLexemes) :=
    Closes.lexes (by decide +kernel)
  have hroot := ReadAs.doc hdoc (.block hheader (.line (lexes_call hname) .nil) .nil)
  rw [List.append_nil, List.append_nil, List.append_assoc] at hroot
  exact hroot

namespace ParserUnit

/-- The functions of a unit: the one that parses from the root rule, then those of the rules. -/
def members (u : ParserUnit) : List Function :=
  u.functions.head?.toList.map rootFunction ++ u.functions.map (·.toFunction)

/-- The lexemes of a unit in which the types have this path and this is implemented. -/
def frame (u : ParserUnit) (path : List String) (body : List Lexeme) : List Lexeme :=
  useLexemes path ++ (builderLexemes ++ (structLexemes u.parser ++ (implLexemes u.parser ++
    (body ++ [.sign "\x7d"]))))

def lexemes (u : ParserUnit) (path : List String) : List Lexeme :=
  u.frame path (u.members.flatMap (·.lexemes))

/-- Names are words, and no line ends in the header. -/
structure IsFramed (u : ParserUnit) (path : List String) : Prop where
  file : '\n' ∉ u.header.file.toList
  moduleName : '\n' ∉ u.header.moduleName.toList
  typesPath : u.typesPath = "::".intercalate path
  ne_nil : path ≠ []
  path : ∀ part ∈ path, IsWord part.toList
  parser : IsWord u.parser.toList

/-- No line ends in the documentation either. -/
structure IsReadable (u : ParserUnit) (path : List String) : Prop extends u.IsFramed path where
  functions : ∀ f ∈ u.functions, f.toFunction.IsReadable
  names : ∀ f ∈ u.functions, '\n' ∉ f.rule.name.toList
  docs : ∀ f ∈ u.functions, '\n' ∉ f.docText.toList

variable {u : ParserUnit} {path : List String}

theorem readAs_members (h : u.IsReadable path) :
    ReadAs (u.rootItems ++ u.functions.flatMap (·.items)) (u.members.flatMap (·.lexemes)) := by
  have hfunctions : ReadAs (u.functions.flatMap (·.items))
      ((u.functions.map (·.toFunction)).flatMap (·.lexemes)) := by
    rw [List.flatMap_map]
    exact .flatMap fun f hf => RuleFunction.readAs_items (h.functions f hf) (h.docs f hf)
  have hroot : ReadAs u.rootItems
      ((u.functions.head?.toList.map rootFunction).flatMap (·.lexemes)) := by
    unfold rootItems
    split
    · rename_i heq
      rw [heq]
      exact .nil
    · rename_i root rest heq
      have hmem : root ∈ u.functions := by simp [heq]
      have hitems := readAs_root (h.functions root hmem).name (h.names root hmem)
      rw [heq]
      simpa using hitems
  rw [members, List.flatMap_append]
  exact hroot.append hfunctions

/-- The unit is read as its frame around what its functions are read as. -/
theorem reads_frame (h : u.IsFramed path) {body : List Lexeme}
    (hbody : ReadAs (u.rootItems ++ u.functions.flatMap (·.items)) body) :
    Reads u.text (u.frame path body) := by
  have huse : Lexes ("use " ++ u.typesPath ++ "::" ++ "\x7bElementType, TokenType\x7d;")
      (useLexemes path) := by
    rw [h.typesPath]
    exact (closes_use h.ne_nil h.path).lexes
  have hgenerated : '\n' ∉ ("Parser generated from `" ++ u.header.file ++ "`.").toList := by
    simpa using h.file
  have hend : Closes ";" [.sign ";"] := by decide +kernel
  have hopen : Closes " \x7b" [.sign "\x7b"] := by decide +kernel
  have hpub : Closes "pub struct " [.word "pub", .word "struct"] := by decide +kernel
  have himpl : Closes "impl " [.word "impl"] := by decide +kernel
  have hstruct : Lexes ("pub struct " ++ u.parser ++ ";") (structLexemes u.parser) :=
    ((hpub.append_lexes (lexes_word h.parser)).closed ';' rfl ⟨rfl, rfl⟩ hend).lexes
  have hhead : Lexes ("impl " ++ u.parser ++ " \x7b") (implLexemes u.parser) :=
    ((himpl.append_lexes (lexes_word h.parser)).closed ' ' rfl ⟨rfl, rfl⟩ hopen).lexes
  have hparser := ReadAs.blank (.doc hgenerated (.line hstruct (.blank
    (.block hhead hbody .nil))))
  have hitems := (readAs_header h.file h.moduleName).append
    (.line huse (.blank (readAs_builder.append hparser)))
  simp only [List.append_nil, List.nil_append, List.append_assoc] at hitems
  have hread := hitems 0
  simp only [text, layout, items, frame, List.append_assoc]
  exact hread

/-- The unit is read back, comments apart. -/
theorem reads_text (h : u.IsReadable path) : Reads u.text (u.lexemes path) :=
  reads_frame h.toIsFramed (readAs_members h)

end ParserUnit

/-! ## Declarations of a unit are found -/

variable {path : List String} {ls ms : List Lexeme}

theorem readPath_pathLexemes (h : readPath ms = ([], ms)) :
    readPath (pathLexemes path ++ ms) = (path, ms) := by
  induction path with
  | nil => exact h
  | cons part path ih =>
      have hrest : readPath (pathLexemes (part :: path) ++ ms) =
          (part :: (readPath (pathLexemes path ++ ms)).1, (readPath (pathLexemes path ++ ms)).2) :=
        rfl
      rw [hrest, ih]

theorem readUse?_useLexemes (path : List String) (ms : List Lexeme) :
    readUse? (useLexemes path ++ ms) = some (path, ["ElementType", "TokenType"]) := by
  have hpath : readPath (pathLexemes path ++ (importedLexemes ++ ms)) =
      (path, importedLexemes ++ ms) := readPath_pathLexemes rfl
  have huse : after? [.word "use"] (useLexemes path ++ ms) =
      some (pathLexemes path ++ (importedLexemes ++ ms)) := by
    simp [after?, useLexemes]
  rw [readUse?, huse]
  simp only [Option.bind_eq_bind, Option.bind_some, hpath]
  simp [after?, importedLexemes, readNames]

theorem splitAtImpl_cons {l : Lexeme} (h : afterImpl? (l :: ls) = none) :
    splitAtImpl (l :: ls) = (l :: (splitAtImpl ls).1, (splitAtImpl ls).2) := by
  rw [splitAtImpl, h]

theorem splitAtImpl_of_some {l : Lexeme} {body : List Lexeme}
    (h : afterImpl? (l :: ls) = some body) : splitAtImpl (l :: ls) = ([], body) := by
  rw [splitAtImpl, h]

theorem splitAtImpl_pathLexemes (path : List String) (ms : List Lexeme) :
    splitAtImpl (pathLexemes path ++ ms) =
      (pathLexemes path ++ (splitAtImpl ms).1, (splitAtImpl ms).2) := by
  induction path with
  | nil => rfl
  | cons part path ih =>
      have hword (rest : List Lexeme) : afterImpl? (.word part :: .sign "::" :: rest) = none := by
        by_cases hpart : part = "impl" <;> simp [afterImpl?, after?, hpart]
      have hsign (rest : List Lexeme) : afterImpl? (.sign "::" :: rest) = none := rfl
      have hcons : pathLexemes (part :: path) ++ ms =
          .word part :: .sign "::" :: (pathLexemes path ++ ms) := rfl
      rw [hcons, splitAtImpl_cons (hword _), splitAtImpl_cons (hsign _), ih]
      rfl

theorem splitAtImpl_of_notMem (h : .word "impl" ∉ ls) (ms : List Lexeme) :
    splitAtImpl (ls ++ ms) = (ls ++ (splitAtImpl ms).1, (splitAtImpl ms).2) := by
  induction ls with
  | nil => rfl
  | cons l ls ih =>
      obtain ⟨hl, hls⟩ : .word "impl" ≠ l ∧ .word "impl" ∉ ls := by simpa using h
      have hnone : afterImpl? (l :: (ls ++ ms)) = none := by
        simp [afterImpl?, after?, Ne.symm hl]
      rw [List.cons_append, splitAtImpl_cons hnone, ih hls]
      rfl

namespace ParserUnit

theorem readUse?_frame (u : ParserUnit) (path : List String) (body : List Lexeme) :
    readUse? (u.frame path body) = some (path, ["ElementType", "TokenType"]) :=
  readUse?_useLexemes path _

/-- The implementation comes last. -/
theorem splitAtImpl_frame (u : ParserUnit) (path : List String) (body : List Lexeme) :
    splitAtImpl (u.frame path body) =
      (useLexemes path ++ (builderLexemes ++ structLexemes u.parser), body ++ [.sign "\x7d"]) := by
  have huse (ms : List Lexeme) : splitAtImpl (useLexemes path ++ ms) =
      (useLexemes path ++ (splitAtImpl ms).1, (splitAtImpl ms).2) := by
    rw [useLexemes, List.cons_append, List.append_assoc, splitAtImpl_cons rfl,
      splitAtImpl_pathLexemes, splitAtImpl_of_notMem (by decide)]
    simp
  have hstruct (ms : List Lexeme) : splitAtImpl (structLexemes u.parser ++ ms) =
      (structLexemes u.parser ++ (splitAtImpl ms).1, (splitAtImpl ms).2) := by
    have hword (rest : List Lexeme) : afterImpl? (.word u.parser :: .sign ";" :: rest) = none := by
      by_cases hpart : u.parser = "impl" <;> simp [afterImpl?, after?, hpart]
    have hcons : structLexemes u.parser ++ ms =
        .word "pub" :: .word "struct" :: .word u.parser :: .sign ";" :: ms := rfl
    rw [hcons, splitAtImpl_cons rfl, splitAtImpl_cons rfl, splitAtImpl_cons (hword _),
      splitAtImpl_cons rfl]
    rfl
  have himpl (ms : List Lexeme) : splitAtImpl (implLexemes u.parser ++ ms) = ([], ms) :=
    splitAtImpl_of_some rfl
  rw [frame, huse, splitAtImpl_of_notMem (by decide), hstruct, himpl]
  simp

/-- What is implemented declares the functions of the unit and has their paths. -/
theorem names_implementation (u : ParserUnit) (path : List String) :
    Names (implementation (u.lexemes path)) (u.members.map (·.name))
      (u.members.flatMap (·.paths)) := by
  have hmembers : Names (u.members.flatMap (·.lexemes)) (u.members.flatMap fun f => [f.name])
      (u.members.flatMap (·.paths)) := .flatMap fun f _ => f.names_lexemes
  have hclose : Names [.sign "\x7d"] [] [] := .single (by decide) (by decide)
  rw [implementation, lexemes, splitAtImpl_frame]
  simpa [← List.map_eq_flatMap] using hmembers.append hclose

theorem typeDeclarations_pathLexemes (path : List String) (ms : List Lexeme) :
    occurrences typeDeclaration? (pathLexemes path ++ ms) = occurrences typeDeclaration? ms := by
  induction path with
  | nil => rfl
  | cons part path ih =>
      have hcons : occurrences typeDeclaration? (pathLexemes (part :: path) ++ ms) =
          occurrences typeDeclaration? (pathLexemes path ++ ms) := rfl
      rw [hcons, ih]

/-- A parser unit names the two enumerations, the trait and the parser. -/
theorem typeNames_frame (u : ParserUnit) (path : List String) (body : List Lexeme) :
    typeNames (u.frame path body) = ["ElementType", "TokenType", "Builder", u.parser] := by
  have huse (ls : List Lexeme) : typeDeclaration? (.word "use" :: ls) = none := by
    unfold typeDeclaration?
    grind
  have hdeclared : occurrences typeDeclaration?
      (importedLexemes ++ (builderLexemes ++ structLexemes u.parser)) = ["Builder", u.parser] := by
    simp [importedLexemes, builderLexemes, traitLexemes, builderMethods, methodLexemes,
      parameterLexemes, resultLexemes, structLexemes, occurrences, typeDeclaration?]
  rw [typeNames, readUse?_frame, splitAtImpl_frame, useLexemes, List.cons_append, occurrences,
    huse, List.append_assoc, typeDeclarations_pathLexemes, hdeclared]
  rfl

end ParserUnit

end GrammarForge.Code
