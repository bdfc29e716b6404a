import GrammarForge.Code.Units
import GrammarForge.Proofs.Code.Identifiers
import GrammarForge.Proofs.Code.Reading
import GrammarForge.Proofs.Grammar.NormalForm

/-!
# The code of a condition and its lexemes

No lexeme goes over the end of a part of a condition, so that the code of the condition has the
lexemes of its parts. Together with the reader this says that the code of a readable condition is
read back as the condition. All conditions that are made from grammars are readable.
-/

namespace GrammarForge.Code

/-- The lexemes of a text that goes on with a blank or a closing sign. -/
theorem Lexes.closed {s : String} {ls : List Lexeme} (hs : Lexes s ls) (c : Char)
    {t : String} {ms : List Lexeme} (ht : t.toList.head? = some c) (hc : EndsLexeme c)
    (h : Closes t ms) : Closes (s ++ t) (ls ++ ms) := by
  cases htext : t.toList with
  | nil => simp [htext] at ht
  | cons d rest =>
      rw [htext] at ht
      cases ht
      exact hs.append htext hc h

theorem closes_space : Closes " " [] := rfl

theorem Closes.space {s : String} {ls : List Lexeme} (h : Closes s ls) : Closes (s ++ " ") ls := by
  simpa using h.append closes_space

theorem Lexes.space {s : String} {ls : List Lexeme} (h : Lexes s ls) : Closes (s ++ " ") ls := by
  simpa using h.closed ' ' rfl ⟨rfl, rfl⟩ closes_space

theorem lexes_truth (value : Bool) :
    Lexes (Condition.truth value).code (Condition.truth value).lexemes := by
  cases value
  · exact ⟨.word "false".toList.reverse, [], _, rfl, rfl, rfl⟩
  · exact ⟨.word "true".toList.reverse, [], _, rfl, rfl, rfl⟩

theorem lexes_consume {variant : String} (h : IsWord variant.toList) :
    Lexes (Condition.consume variant).code (Condition.consume variant).lexemes := by
  have hhead : Closes "b.consume(TokenType::" consumeLexemes := rfl
  have htail : Closes ")" [.sign ")"] := rfl
  have hcode := ((hhead.append_lexes (lexes_word h)).closed ')' rfl ⟨rfl, rfl⟩ htail).lexes
  rwa [List.append_assoc] at hcode

theorem lexes_consumeText (text : String) :
    Lexes (Condition.consumeText text).code (Condition.consumeText text).lexemes := by
  have hhead : Closes "b.consume_text(" consumeTextLexemes := rfl
  have htail : Closes ")" [.sign ")"] := rfl
  have hcode := ((hhead.append (closes_literal text)).append htail).lexes
  rwa [List.append_assoc] at hcode

theorem lexes_call {function : String} (h : IsWord function.toList) :
    Lexes (Condition.call function).code (Condition.call function).lexemes := by
  have hhead : Closes "Self::" [.word "Self", .sign "::"] := rfl
  have htail : Closes "(b)" [.sign "(", .word "b", .sign ")"] := rfl
  exact ((hhead.append_lexes (lexes_word h)).closed '(' rfl ⟨rfl, rfl⟩ htail).lexes

mutual

theorem Condition.lexes_code : (c : Condition) → c.IsReadable → Lexes c.code c.lexemes
  | .truth value, _ => lexes_truth value
  | .consume _, h => lexes_consume h
  | .consumeText text, _ => lexes_consumeText text
  | .call _, h => lexes_call h
  | .atMark, _ => ⟨.word ['m'], _, _, rfl, rfl, rfl⟩
  | .negation operand, h =>
    have hsign : Closes "!" [.sign "!"] := rfl
    hsign.append_lexes (operand.lexes_code h.1)
  | .all parts, h => by
    have hconnective : Closes " && " [.sign "&&"] := rfl
    change Lexes (Condition.joined " && " parts) _
    rw [Condition.lexemes]
    exact Condition.lexes_joined hconnective rfl parts h.2
  | .any parts, h => by
    have hconnective : Closes " || " [.sign "||"] := rfl
    change Lexes (Condition.joined " || " parts) _
    rw [Condition.lexemes]
    exact Condition.lexes_joined hconnective rfl parts h.2
  | .parens inner, h => by
    have hopen : Closes "(" [.sign "("] := rfl
    have hclose : Closes ")" [.sign ")"] := rfl
    have hinner := inner.lexes_code h
    change Lexes ("(" ++ inner.code ++ ")") _
    rw [Condition.lexemes]
    exact ((hopen.append_lexes hinner).closed ')' rfl ⟨rfl, rfl⟩ hclose).lexes
  | .block body value, h => by
    have hopen : Closes "\x7b " [.sign "\x7b"] := rfl
    have hclose : Closes " \x7d" [.sign "\x7d"] := rfl
    have hbody := Statement.closes_sequence body h.1
    have hvalue := value.lexes_code h.2.1
    have hinner := (hopen.append hbody).append_lexes hvalue
    have hcode := (hinner.closed ' ' rfl ⟨rfl, rfl⟩ hclose).lexes
    change Lexes ("\x7b " ++ Statement.sequence body ++ value.code ++ " \x7d") _
    rw [Condition.lexemes]
    simpa using hcode
  | .branch test value other, h => by
    have hif : Closes "if " [.word "if"] := rfl
    have helse : Closes " else " [.word "else"] := rfl
    have htest := (test.lexes_code h.1).space
    have hvalue := (value.lexes_code h.2.1.1).closed ' ' rfl ⟨rfl, rfl⟩ helse
    have hother := other.lexes_code h.2.2.1
    have hcode := hif.append_lexes ((htest.append hvalue).append_lexes hother)
    change Lexes ("if " ++ test.code ++ " " ++ value.code ++ " else " ++ other.code) _
    rw [Condition.lexemes]
    simpa [String.append_assoc] using hcode

theorem Condition.lexes_joined {connective : String} {sign : Lexeme} {least : Nat}
    (hconnective : Closes connective [sign]) (hspace : connective.toList.head? = some ' ') :
    (parts : List Condition) → Condition.AreReadable least parts →
      Lexes (Condition.joined connective parts) (Condition.joinedLexemes sign parts)
  | [], _ => ⟨.ready, [], [], rfl, rfl, rfl⟩
  | [part], h => by
    have hpart := part.lexes_code h.1.1
    simpa [Condition.joined, Condition.joinedLexemes] using hpart
  | part :: next :: rest, h => by
    have hpart := part.lexes_code h.1.1
    have hrest := Condition.lexes_joined hconnective hspace (next :: rest) h.2
    have hcode := (hpart.closed ' ' hspace ⟨rfl, rfl⟩ hconnective).append_lexes hrest
    rw [Condition.joined, Condition.joinedLexemes]
    simpa [String.append_assoc] using hcode

theorem Statement.closes_code : (st : Statement) → st.IsReadable → Closes st.code st.lexemes
  | .mark, _ => rfl
  | .rollback, _ => rfl
  | .ignore condition, h => by
    have hlet : Closes "let _ = " ignoreLexemes := rfl
    have hend : Closes ";" [.sign ";"] := rfl
    have hcondition := (condition.lexes_code h).closed ';' rfl ⟨rfl, rfl⟩ hend
    rw [Statement.code, Statement.lexemes, String.append_assoc]
    exact hlet.append hcondition
  | .loop body, h => by
    have hopen : Closes "loop \x7b " [.word "loop", .sign "\x7b"] := rfl
    have hclose : Closes "\x7d" [.sign "\x7d"] := rfl
    have hbody := (Statement.closes_sequence body h).append hclose
    rw [Statement.code, Statement.lexemes, String.append_assoc]
    exact hopen.append hbody
  | .breakIf condition, h => by
    have hif : Closes "if " [.word "if"] := rfl
    have hbreak : Closes " \x7b break; \x7d" breakLexemes := rfl
    have hcondition := (condition.lexes_code h).closed ' ' rfl ⟨rfl, rfl⟩ hbreak
    rw [Statement.code, Statement.lexemes, String.append_assoc]
    exact hif.append hcondition

theorem Statement.closes_sequence : (body : List Statement) → Statement.AreReadable body →
    Closes (Statement.sequence body) (Statement.sequenceLexemes body)
  | [], _ => rfl
  | first :: rest, h => (first.closes_code h.1).space.append (Statement.closes_sequence rest h.2)

end

theorem Condition.ofCode?_code {c : Condition} (h : c.IsReadable) : ofCode? c.code = some c := by
  have hlex := lex_eq_some (c.lexes_code h)
  obtain ⟨parts, hread, hparts⟩ := (c.readsBack h).condition (4 * c.lexemes.length + 3) []
    (by simp) (by simp) le_rfl
  rw [List.append_nil] at hread
  simp [ofCode?, hlex, hread, hparts]

theorem Condition.areReadable_iff {least : Nat} {parts : List Condition} :
    Condition.AreReadable least parts ↔ ∀ c ∈ parts, c.IsReadable ∧ least ≤ c.binding := by
  induction parts with
  | nil => simp [AreReadable]
  | cons part rest ih => simp [AreReadable, ih]

theorem Condition.AreReadable.mono {least more : Nat} {parts : List Condition}
    (h : Condition.AreReadable more parts) (hle : least ≤ more) :
    Condition.AreReadable least parts := by
  rw [areReadable_iff] at h ⊢
  intro c hc
  exact ⟨(h c hc).1, le_trans hle (h c hc).2⟩

theorem Condition.length_ofExprs (isDefined : String → Bool) (es : List Expr) :
    (Condition.ofExprs isDefined es).length = es.length := by
  induction es with
  | nil => rfl
  | cons e rest ih => rw [Condition.ofExprs, List.length_cons, List.length_cons, ih]

theorem Condition.isReadable_attempt {parts : List Condition} (hlength : 2 ≤ parts.length)
    (h : Condition.AreReadable 2 parts) : (attempt parts).IsReadable := by
  have hyes : (Condition.block [] (.truth true)).IsReadable := ⟨trivial, trivial, le_rfl⟩
  have hno : (Condition.block [.rollback] (.truth false)).IsReadable :=
    ⟨⟨trivial, trivial⟩, trivial, le_rfl⟩
  exact ⟨⟨trivial, trivial⟩, ⟨⟨hlength, h⟩, ⟨hyes, trivial⟩, hno, trivial⟩, le_rfl⟩

theorem Condition.isReadable_repeated {c : Condition} (h : c.IsReadable) :
    (repeated c).IsReadable := by
  have hfails : (Condition.negation (.parens c)).IsReadable := ⟨h, le_rfl⟩
  have htest : (Condition.any [.negation (.parens c), .atMark]).IsReadable :=
    ⟨le_rfl, ⟨hfails, by simp [binding]⟩, ⟨trivial, by simp [binding]⟩, trivial⟩
  exact ⟨⟨⟨trivial, htest, trivial⟩, trivial⟩, trivial, le_rfl⟩

mutual

/-- No operator stands free in the condition of an expression. -/
theorem Condition.isReadable_ofExpr (isDefined : String → Bool) : (e : Expr) → e.IsNormal →
    (Condition.ofExpr isDefined e).IsReadable ∧ 3 ≤ (Condition.ofExpr isDefined e).binding
  | .reference name, h => by
    rw [Condition.ofExpr]
    split
    · exact ⟨isWord_parseFunction h.1.all, le_rfl⟩
    · exact ⟨trivial, le_rfl⟩
  | .token name, h => by
    rw [Condition.ofExpr]
    exact ⟨isWord_tokenVariant h.1.all, le_rfl⟩
  | .literal text, _ => by
    rw [Condition.ofExpr]
    exact ⟨trivial, le_rfl⟩
  | .sequence items, h => by
    have hitems := Condition.areReadable_ofExprs isDefined items h.2
    rw [Condition.ofExpr]
    split
    · exact ⟨trivial, le_rfl⟩
    · rename_i part heq
      rw [heq] at hitems
      exact hitems.1
    · rename_i hnil hone
      have hlength : 2 ≤ (Condition.ofExprs isDefined items).length := by
        match hparts : Condition.ofExprs isDefined items with
        | [] => exact absurd hparts hnil
        | [part] => exact absurd hparts (hone part)
        | _ :: _ :: _ => simp
      exact ⟨isReadable_attempt hlength (hitems.mono (by decide)), le_rfl⟩
  | .choice alternatives, h => by
    have hparts := Condition.areReadable_ofExprs isDefined alternatives h.2
    have hlength : 2 ≤ (Condition.ofExprs isDefined alternatives).length := by
      rw [Condition.length_ofExprs]
      exact h.1
    rw [Condition.ofExpr]
    exact ⟨⟨hlength, hparts.mono (by decide)⟩, le_rfl⟩
  | .optional item, h => by
    have hitem := Condition.isReadable_ofExpr isDefined item h
    rw [Condition.ofExpr]
    exact ⟨⟨⟨hitem.1, trivial⟩, trivial, le_rfl⟩, le_rfl⟩
  | .zeroOrMore item, h => by
    have hitem := Condition.isReadable_ofExpr isDefined item h
    rw [Condition.ofExpr]
    exact ⟨isReadable_repeated hitem.1, le_rfl⟩
  | .oneOrMore item, h => by
    have hitem := Condition.isReadable_ofExpr isDefined item h
    have hrepeated := isReadable_repeated hitem.1
    rw [Condition.ofExpr]
    have hbinding : 2 ≤ (Condition.repeated (Condition.ofExpr isDefined item)).binding := by
      simp [Condition.repeated, Condition.binding]
    exact ⟨⟨le_rfl, ⟨hitem.1, by omega⟩, ⟨hrepeated, hbinding⟩, trivial⟩, le_rfl⟩

theorem Condition.areReadable_ofExprs (isDefined : String → Bool) : (es : List Expr) →
    Expr.AreNormal es → Condition.AreReadable 3 (Condition.ofExprs isDefined es)
  | [], _ => trivial
  | e :: rest, h =>
    ⟨Condition.isReadable_ofExpr isDefined e h.1, Condition.areReadable_ofExprs isDefined rest h.2⟩

end

end GrammarForge.Code
