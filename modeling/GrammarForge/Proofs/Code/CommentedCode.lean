import GrammarForge.Proofs.Code.Functions

/-!
# Code with comments

Two slashes outside a string literal start a comment, which goes to the end of the line. What is not
in a comment is read as code. Items of code are then read one after the other, however far they are
indented; a comment reads as nothing if no line ends in it.
-/

namespace GrammarForge.Code

deriving instance DecidableEq for Mode

/-- What has been read of code with comments. -/
inductive Place where
  | code (mode : Mode)
  /-- After a slash that is in no literal. -/
  | slash
  | comment
deriving DecidableEq

/-- Read a character. No lexeme but a literal has a slash in it, so that where code does not go on
with a slash, a comment starts. -/
def Place.step (place : Place) (c : Char) : Option (Place × List Lexeme) :=
  match place with
  | .code mode =>
    match mode.step c with
    | some (next, out) => some (.code next, out)
    | none => if c = '/' then mode.finish.map fun tail => (.slash, tail) else none
  | .slash => if c = '/' then some (.comment, []) else none
  | .comment => some (if c = '\n' then .code .ready else .comment, [])

def Place.finish : Place → Option (List Lexeme)
  | .code mode => mode.finish
  | .slash => none
  | .comment => some []

/-- Read a text. -/
def Place.run (place : Place) : List Char → Option (Place × List Lexeme)
  | [] => some (place, [])
  | c :: rest => do
    let (next, out) ← place.step c
    let (last, more) ← next.run rest
    return (last, out ++ more)

/-- The lexemes of a text that are not in comments. -/
def lexCode (s : String) : Option (List Lexeme) := do
  let (last, out) ← Place.run (.code .ready) s.toList
  let tail ← last.finish
  return out ++ tail

theorem Place.run_cons {place next last : Place} {c : Char} {cs : List Char}
    {out more : List Lexeme} (hc : place.step c = some (next, out))
    (hcs : next.run cs = some (last, more)) : place.run (c :: cs) = some (last, out ++ more) := by
  simp [run, hc, hcs]

theorem Place.run_append {place next last : Place} {cs ds : List Char} {out more : List Lexeme}
    (hcs : place.run cs = some (next, out)) (hds : next.run ds = some (last, more)) :
    place.run (cs ++ ds) = some (last, out ++ more) := by
  induction cs generalizing place out with
  | nil =>
      cases hcs
      exact hds
  | cons c cs ih =>
      simp only [run, bind, Option.bind_eq_some_iff] at hcs
      obtain ⟨⟨middle, first⟩, hstep, ⟨_, rest⟩, hrun, heq⟩ := hcs
      cases heq
      rw [List.cons_append, List.append_assoc]
      exact run_cons hstep (ih hrun)

/-- Code without comments is read as it was. -/
theorem Place.run_code {mode next : Mode} {cs : List Char} {out : List Lexeme}
    (h : mode.run cs = some (next, out)) : Place.run (.code mode) cs = some (.code next, out) := by
  induction cs generalizing mode out with
  | nil =>
      cases h
      rfl
  | cons c cs ih =>
      simp only [Mode.run, bind, Option.bind_eq_some_iff] at h
      obtain ⟨⟨middle, first⟩, hstep, ⟨_, rest⟩, hrun, heq⟩ := h
      cases heq
      have hcode : Place.step (.code mode) c = some (.code middle, first) := by
        simp [Place.step, hstep]
      exact run_cons hcode (ih hrun)

theorem Place.run_comment {cs : List Char} (h : '\n' ∉ cs) :
    Place.run .comment cs = some (.comment, []) := by
  induction cs with
  | nil => rfl
  | cons c cs ih =>
      obtain ⟨hc, hcs⟩ : '\n' ≠ c ∧ '\n' ∉ cs := by simpa using h
      have hstep : Place.step .comment c = some (.comment, []) := by
        simp [Place.step, Ne.symm hc]
      exact run_cons hstep (ih hcs)

/-- The text consists of these lexemes and of comments, and ends outside both. -/
def Reads (s : String) (ls : List Lexeme) : Prop :=
  Place.run (.code .ready) s.toList = some (.code .ready, ls)

instance (s : String) (ls : List Lexeme) : Decidable (Closes s ls) :=
  inferInstanceAs (Decidable (Mode.run .ready s.toList = some (.ready, ls)))

instance (s : String) (ls : List Lexeme) : Decidable (Reads s ls) :=
  inferInstanceAs (Decidable (Place.run (.code .ready) s.toList = some (.code .ready, ls)))

theorem lexCode_of_reads {s : String} {ls : List Lexeme} (h : Reads s ls) :
    lexCode s = some ls := by
  rw [Reads] at h
  simp [lexCode, h, Place.finish, Mode.finish]

theorem Reads.append {s t : String} {ls ms : List Lexeme} (hs : Reads s ls) (ht : Reads t ms) :
    Reads (s ++ t) (ls ++ ms) := by
  rw [Reads, String.toList_append]
  exact Place.run_append hs ht

theorem Closes.reads {s : String} {ls : List Lexeme} (h : Closes s ls) : Reads s ls :=
  Place.run_code h

/-- A comment ends with the line, whatever is in it. -/
theorem reads_comment {marked text : String} (hmarked : marked.toList.take 2 = ['/', '/'])
    (htext : '\n' ∉ (marked ++ text).toList) (level : Nat) :
    Reads (layLine level (marked ++ text)) [] := by
  obtain ⟨rest, hrest⟩ : ∃ rest, (marked ++ text).toList = '/' :: '/' :: rest := by
    refine ⟨marked.toList.drop 2 ++ text.toList, ?_⟩
    rw [String.toList_append, ← List.take_append_drop 2 marked.toList, hmarked]
    rfl
  have hopen : Place.run (.code .ready) ['/', '/'] = some (.comment, []) := rfl
  have hclose : Place.run .comment ['\n'] = some (.code .ready, []) := rfl
  have hinside : Place.run .comment rest = some (.comment, []) :=
    Place.run_comment fun h => htext (by simp [hrest, h])
  have hline : Reads (marked ++ text ++ "\n") [] := by
    rw [Reads, String.toList_append, hrest]
    exact Place.run_append (Place.run_append hopen hinside) hclose
  rw [layLine, String.append_assoc]
  exact (closes_indentation level).reads.append hline

theorem layItems_append (level : Nat) (items rest : List Item) :
    (layItems level (items ++ rest)).1 =
      (layItems level items).1 ++ (layItems (layItems level items).2 rest).1 := by
  induction items generalizing level with
  | nil => exact (String.empty_append).symm
  | cons item items ih =>
      have hrest := congrArg ((item.lay level).1 ++ ·) (ih (item.lay level).2)
      exact hrest.trans (String.append_assoc).symm

/-- The items are read as these lexemes, however far they are indented. -/
def ReadAs (items : List Item) (ls : List Lexeme) : Prop :=
  ∀ level, Reads (layItems level items).1 ls

namespace ReadAs

variable {items rest : List Item} {text : String} {ls ms : List Lexeme}

theorem nil : ReadAs [] [] := fun _ => rfl

theorem cons {item : Item} (hitem : ∀ level, Reads (item.lay level).1 ls)
    (hrest : ReadAs rest ms) : ReadAs (item :: rest) (ls ++ ms) :=
  fun level => (hitem level).append (hrest _)

theorem line (h : Lexes text ls) (hrest : ReadAs rest ms) :
    ReadAs (.line text :: rest) (ls ++ ms) :=
  cons (fun level => (h.line level).reads) hrest

theorem blank (hrest : ReadAs rest ms) : ReadAs (.blank :: rest) ms := by
  have hline : Reads "\n" [] := rfl
  have hitem : ∀ level, Reads (Item.blank.lay level).1 [] := fun _ => hline
  exact cons hitem hrest

theorem comment (h : '\n' ∉ text.toList) (hrest : ReadAs rest ms) :
    ReadAs (.comment text :: rest) ms := by
  have hitem : ∀ level, Reads ((Item.comment text).lay level).1 [] :=
    reads_comment rfl (by simpa using h)
  exact cons hitem hrest

theorem doc (h : '\n' ∉ text.toList) (hrest : ReadAs rest ms) : ReadAs (.doc text :: rest) ms := by
  have hitem : ∀ level, Reads ((Item.doc text).lay level).1 [] :=
    reads_comment rfl (by simpa using h)
  exact cons hitem hrest

theorem block {header : String} {body : List Item} {us : List Lexeme}
    (hheader : Lexes (header ++ " \x7b") ls) (hbody : ReadAs body ms) (hrest : ReadAs rest us) :
    ReadAs (.block header body :: rest) (ls ++ ms ++ [.sign "\x7d"] ++ us) := by
  have hclose : Lexes "\x7d" [.sign "\x7d"] := Closes.lexes rfl
  refine cons (fun level => ?_) hrest
  exact ((hheader.line level).reads.append (hbody (level + 1))).append (hclose.line _).reads

theorem append (hitems : ReadAs items ls) (hrest : ReadAs rest ms) :
    ReadAs (items ++ rest) (ls ++ ms) := by
  intro level
  rw [layItems_append]
  exact (hitems level).append (hrest _)

theorem flatMap {α : Type} {items : α → List Item} {lexemes : α → List Lexeme} {as : List α}
    (h : ∀ a ∈ as, ReadAs (items a) (lexemes a)) :
    ReadAs (as.flatMap items) (as.flatMap lexemes) := by
  induction as with
  | nil => exact nil
  | cons a as ih =>
      rw [List.flatMap_cons, List.flatMap_cons]
      exact (h a (by simp)).append (ih fun b hb => h b (by simp [hb]))

end ReadAs

end GrammarForge.Code
