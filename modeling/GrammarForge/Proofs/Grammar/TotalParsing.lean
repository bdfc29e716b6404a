import GrammarForge.Proofs.Grammar.ByteScanner
import GrammarForge.Proofs.Grammar.DescentFiles
import Mathlib

/-!
# Parsing comes to an end within bounds

Every iteration of the scanner takes a byte or more, and every iteration of the loops of the parser
takes a token or more, if it does not leave its loop. No slice and no token is asked for that is not
there. So parsing by position comes to an end on every text, with the grammar that is read from the
text or with the same error, and no loop of it takes more steps than the text has bytes and one.
-/

namespace GrammarForge

theorem Scan.length_le_size {text : String} {tokens : List Token} (h : scan text = .ok tokens) :
    tokens.length ≤ text.utf8ByteSize := by
  rw [← byteLength_toList]
  exact ((scan_iff text tokens).1 h).length_le

namespace Cursor

open Body Outcome GrammarFile

/-- Parse the text of a grammar by position. -/
def parse (steps : Nat) (env : Environment) (name text : String) : Outcome Grammar :=
  match env.factory? Environment.grammarLanguage with
  | none => fail (.noFactory Environment.grammarLanguage)
  | some factory => do
    let tokens ← scan steps text
    match env.matcher? Environment.grammarLanguage with
    | some m => Outcome.of (m.check tokens)
    | none => pure ()
    file tokens text.utf8ByteSize steps factory name

section

variable {steps : Nat} {text : String} (hsteps : text.utf8ByteSize < steps)
include hsteps

/-- Parsing by position ends, within bounds, with the grammar of the text or with the same error. -/
theorem parse_eq (env : Environment) (name : String) :
    parse steps env name text = Outcome.of (env.parseGrammar name text) := by
  rw [parse, Environment.parseGrammar, scan_eq hsteps]
  cases env.factory? Environment.grammarLanguage with
  | none => rfl
  | some factory =>
      cases hscan : Scan.scan text with
      | error e => rfl
      | ok tokens =>
          have hspelled : ∀ t ∈ tokens, t.WellSpelled := Scan.scanFrom_wellSpelled hscan
          have hlength := (Scan.length_le_size hscan).trans_lt hsteps
          have hfile := file_eq text.utf8ByteSize hspelled hlength factory name
          cases env.matcher? Environment.grammarLanguage with
          | none => exact hfile
          | some m =>
              change (Outcome.of (m.check tokens) >>= fun _ => file tokens _ steps factory name) =
                Outcome.of (m.check tokens >>= fun _ => ofTokens factory name _ tokens)
              rw [hfile]
              cases m.check tokens <;> rfl

end

/-- An iteration of a loop goes on behind a token or more, or leaves the loop. -/
def TakesToken {α : Type} (tokens : List Token) (pos : Nat) : Outcome (Turn α) → Prop :=
  Gives (Turn.Fits (fun _ pos' => pos < pos' ∧ pos' ≤ tokens.length) fun _ _ => True) fun _ => True

theorem takesToken_of_gives {α : Type} {tokens : List Token} {pos : Nat} {o : Outcome (Turn α)}
    {rest leave : α → Nat → Prop} {error : GrammarError → Prop}
    (h : Gives (Turn.Fits (fun a pos' => pos < pos' ∧ pos' ≤ tokens.length ∧ rest a pos') leave)
      error o) : TakesToken tokens pos o :=
  h.mono (fun _ h => h.mono (fun _ _ h => ⟨h.1, h.2.1⟩) fun _ _ _ => trivial) fun _ _ => trivial

section

variable {tokens : List Token} {steps depth pos : Nat} (length : Nat)
  (hspelled : ∀ t ∈ tokens, t.WellSpelled) (hsteps : tokens.length < steps)
  (hdepth : tokens.length ≤ pos + depth)
include hspelled hsteps hdepth

theorem sequenceTurn_takesToken (items : List Expr) :
    TakesToken tokens pos
      (sequenceTurn tokens length steps (choice tokens length steps depth) items pos) :=
  takesToken_of_gives (sequenceTurn_gives length hspelled hsteps items fun _ hlt hin =>
    choice_gives length hspelled hsteps (by omega) hin)

theorem choiceTurn_takesToken (alternatives : List Expr) :
    TakesToken tokens pos
      (choiceTurn tokens length steps (choice tokens length steps depth) alternatives pos) := by
  rw [choiceTurn]
  split
  · obtain ⟨t, h, -⟩ := kind_of_isAt ‹_›
    have hlt : pos < tokens.length := (List.getElem?_eq_some_iff.1 h).1
    have hsequence := sequence_gives length hspelled hsteps hlt fun q hq hin =>
      choice_gives length hspelled hsteps (show tokens.length < q + depth by omega) hin
    exact hsequence.bind (fun r hr => .ends (.again ⟨hr.1, hr.2.1⟩)) fun _ _ => trivial
  · exact .ends (.leave trivial)

end

/-- Parsing comes to an end on every text, after no more steps in a loop than the text has bytes and
one, and asks for no slice and no token that is not there. The scanner takes a byte or more in every
iteration and stays between characters. In the loops of the parser, over attributes, operators,
items, alternatives and the parts of a file, every iteration takes a token or more or is the last,
however deep the group is nested that it is in. -/
theorem parsing_ends_within_bounds {steps : Nat} {text : String}
    (hsteps : text.utf8ByteSize < steps) (env : Environment) (name : String) :
    parse steps env name text = Outcome.of (env.parseGrammar name text) ∧
      scan steps text = Outcome.of (Scan.scan text) ∧
      (∀ pos, String.Pos.Raw.IsValid text ⟨pos⟩ → pos < text.utf8ByteSize →
        Gives (fun r => pos < r.1 ∧ String.Pos.Raw.IsValid text ⟨r.1⟩) (fun _ => True)
          (scanTurn text steps pos)) ∧
      ∀ tokens, Scan.scan text = .ok tokens → ∀ pos,
        (∀ attributes,
          TakesToken tokens pos (attributeTurn tokens text.utf8ByteSize attributes pos)) ∧
        (∀ e, TakesToken tokens pos (operatorTurn tokens e pos)) ∧
        (∀ depth, tokens.length ≤ pos + depth →
          let inner := choice tokens text.utf8ByteSize steps depth
          (∀ items,
            TakesToken tokens pos (sequenceTurn tokens text.utf8ByteSize steps inner items pos)) ∧
          ∀ alternatives,
            TakesToken tokens pos
              (choiceTurn tokens text.utf8ByteSize steps inner alternatives pos)) ∧
        ∀ factory parts,
          TakesToken tokens pos (fileTurn tokens text.utf8ByteSize steps factory parts pos) := by
  refine ⟨parse_eq hsteps env name, scan_eq hsteps, fun _ => scanTurn_progress hsteps,
    fun tokens hscan pos => ?_⟩
  have hspelled : ∀ t ∈ tokens, t.WellSpelled := Scan.scanFrom_wellSpelled hscan
  have hwords := wordsAreNames_of_wellSpelled hspelled
  have hlength := (Scan.length_le_size hscan).trans_lt hsteps
  refine ⟨fun attributes => ?_, fun e => ?_, fun depth hdepth => ⟨fun items => ?_, fun es => ?_⟩,
    fun factory parts => ?_⟩
  · exact takesToken_of_gives (attributeTurn_gives _ hspelled attributes)
  · exact takesToken_of_gives (operatorTurn_gives text.utf8ByteSize hwords e)
  · exact sequenceTurn_takesToken _ hspelled hlength hdepth items
  · exact choiceTurn_takesToken _ hspelled hlength hdepth es
  · exact takesToken_of_gives (fileTurn_gives _ hspelled hlength factory parts)

/-- A backslash takes a character of two bytes along, and the text may be over behind another. -/
theorem parsing_ends_behind_backslashes :
    "a ::= '\\é'".utf8ByteSize < 12 ∧ "a ::= '\\".utf8ByteSize < 9 ∧
      parse 12 .standard "g" "a ::= '\\é'" =
        pure ⟨"g", [], [⟨"a", false, .literal "é", ⟨0, 11⟩⟩]⟩ ∧
      parse 9 .standard "g" "a ::= '\\" = fail (.unterminatedString ⟨6, 7⟩) := by
  have hread : Environment.standard.parseGrammar "g" "a ::= '\\é'" =
      .ok ⟨"g", [], [⟨"a", false, .literal "é", ⟨0, 11⟩⟩]⟩ := by cbv
  have hfails : Environment.standard.parseGrammar "g" "a ::= '\\" =
      .error (.unterminatedString ⟨6, 7⟩) := by cbv
  have hsize : "a ::= '\\é'".utf8ByteSize < 12 := by decide
  have hsize' : "a ::= '\\".utf8ByteSize < 9 := by decide
  have hwhole := (parsing_ends_within_bounds hsize .standard "g").1
  have hcut := (parsing_ends_within_bounds hsize' .standard "g").1
  rw [hread] at hwhole
  rw [hfails] at hcut
  exact ⟨hsize, hsize', hwhole, hcut⟩

end Cursor

end GrammarForge
