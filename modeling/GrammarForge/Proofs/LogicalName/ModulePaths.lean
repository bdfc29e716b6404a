import GrammarForge.Proofs.Code.UsableNames
import GrammarForge.Proofs.Generation.References
import GrammarForge.Proofs.LogicalName.Components
import GrammarForge.Proofs.Text.SingleWords

/-!
# Modules of names

A unit is brought into scope under the path of its file. The parts of the path are identifiers, and
its modules are not reserved, because no part of a name is. The last part is in snake case, however,
and this is a reserved word where the simple name is one that has been raised, as `Type` is.
-/

namespace GrammarForge

open Code

namespace Text

/-- Reserved words that start with a capital or are in capitals throughout. -/
def raisedWords : List String := reservedWords.flatMap fun word => [pascalCase word, capitals word]

/-- Snake case leads to a reserved word only from such a word, or from one that is raised. -/
theorem isReserved_snakeCase_iff {name : String} (hname : AllIdent name.toList)
    (hreserved : isReserved name = false) :
    isReserved (snakeCase name) = true ↔ name ∈ raisedWords := by
  constructor
  · intro hsnake
    have hword : snakeCase name ∈ reservedWords := List.contains_iff_mem.1 hsnake
    have hself : snakeCase name ≠ "Self" := by
      intro hself
      have hcapital : 'S' ∈ (snakeCase name).toList := hself ▸ by decide
      rw [snakeCase, String.toList_ofList] at hcapital
      exact absurd (noUpper_snakeChars hname.allAscii none 'S' hcapital) (by decide)
    have hspelled := (snakeCase_eq_iff hname (isLower_of_mem_reservedWords hword hself)).1 rfl
    rcases List.mem_cons.1 hspelled with hsame | hraised
    · rw [← hsame, hreserved] at hsnake
      cases hsnake
    · exact List.mem_flatMap.2 ⟨_, hword, hraised⟩
  · intro hraised
    obtain ⟨word, hword, hspelled⟩ := List.mem_flatMap.1 hraised
    by_cases hself : word = "Self"
    · subst hself
      have hall : ∀ spelled ∈ [pascalCase "Self", capitals "Self"],
          isReserved spelled = true ∨ isReserved (snakeCase spelled) = true := by decide +kernel
      exact (hall name hspelled).resolve_left (by simp [hreserved])
    · have hsnake := (snakeCase_eq_iff hname (isLower_of_mem_reservedWords hword hself)).2
        (List.mem_cons_of_mem word hspelled)
      rw [hsnake]
      exact List.contains_iff_mem.2 hword

end Text

namespace Code

/-- After its header a parser brings the types into scope. -/
theorem ParserUnit.text_eq (u : ParserUnit) : ∃ rest, u.text = layout u.header.items ++
    (s!"use {u.typesPath}::" ++ "\x7bElementType, TokenType\x7d;\n") ++ rest := by
  obtain ⟨rest, hitems⟩ : ∃ rest, u.items = u.header.items ++
      .line (s!"use {u.typesPath}::" ++ "\x7bElementType, TokenType\x7d;") :: rest :=
    ⟨_, by rw [items, List.append_assoc, List.append_assoc]; rfl⟩
  refine ⟨layout rest, ?_⟩
  rw [text, hitems, layout_header_append]
  simp [layout, layItems, Item.lay, layLine, String.append_assoc]

end Code

namespace Text

theorem snakeChars_ne_nil {cs : List Char} (h : AllIdent cs) (hne : cs ≠ []) (prev : Option Char) :
    snakeChars prev cs ≠ [] := by
  cases cs with
  | nil => exact absurd rfl hne
  | cons c cs =>
      have hc := ((allIdent_cons c cs).1 h).1
      rw [snakeChars_cons_of_isIdentRest hc]
      simp

/-- Snake case does not leave a lone underscore of an identifier. -/
theorem snakeCase_ne_underscore {name : String} (h : isIdentifier name = true) :
    snakeCase name ≠ "_" := by
  intro hsnake
  obtain ⟨c, rest, hname, hstart, hrest⟩ := isWord_of_isIdentifier h
  have hchars : snakeChars none (c :: rest) = ['_'] := by
    rw [← hname]
    simpa [snakeCase, String.ext_iff] using hsnake
  have hc : isIdentRest c = true := (isWord_of_isIdentifier h).all c (by simp [hname])
  rw [snakeChars_cons_of_isIdentRest hc] at hchars
  obtain ⟨hlower, hnil⟩ : c.toLower = '_' ∧ snakeChars (some c) rest = [] := by
    simpa [startsWord] using hchars
  have hunderscore : c = '_' := by
    have hall {d : Char} := forall_ascii (c := d) (fun c => c.toLower = '_' → c = '_') (by decide)
    exact hall (isAscii_of_isIdentRest hc) hlower
  have hlone : rest = [] := by
    by_contra hne
    exact snakeChars_ne_nil hrest hne (some c) hnil
  rw [isIdentifier, hname, hunderscore, hlone] at h
  exact absurd h (by decide)

end Text

namespace LogicalName

/-- The name of the file of a unit without its extension, which is the name of its module. -/
def stem (n : LogicalName) : String := Text.snakeCase n.simple.text

/-- Names share a path if they are alike up to the snake case of their simple names. -/
theorem relativePath_eq_iff_stem {a b : LogicalName} :
    a.relativePath = b.relativePath ↔ a.modules = b.modules ∧ a.stem = b.stem := by
  have htext : Function.Injective Segment.text := by
    rintro ⟨_, _, _⟩ ⟨_, _, _⟩ rfl
    rfl
  rw [relativePath_eq_iff]
  constructor
  · intro h
    obtain ⟨hmodules, hfile⟩ := List.append_inj' h rfl
    exact ⟨List.map_injective_iff.2 htext hmodules,
      (String.append_left_inj ".rs").1 (List.singleton_inj.1 hfile)⟩
  · rintro ⟨hmodules, hstem⟩
    rw [stem, stem] at hstem
    rw [fileComponents, fileComponents, hmodules, hstem]

theorem isDeclarable_modules (n : LogicalName) :
    ∀ part ∈ n.modules.map (·.text), IsDeclarable part := by
  intro part hpart
  obtain ⟨s, -, rfl⟩ := List.mem_map.1 hpart
  exact isDeclarable_iff.2 ⟨s.isIdentifier, s.notReserved⟩

theorem isDeclarable_stem_iff (n : LogicalName) :
    IsDeclarable n.stem ↔ n.simple.text ∉ Text.raisedWords := by
  have hreserved := Text.isReserved_snakeCase_iff n.simple.allIdent n.simple.notReserved
  rw [Text.isReserved, List.contains_iff_mem] at hreserved
  rw [← hreserved]
  exact ⟨fun h => h.notReserved, fun h =>
    ⟨Text.isWord_snakeCase n.simple.isWord, Text.snakeCase_ne_underscore n.simple.isIdentifier, h⟩⟩

end LogicalName

namespace Generation.Request

/-- The path in a parser is that of its types. -/
theorem use_line_of_plan {r : Request} {types parser : Artifact}
    (h : r.plan.artifacts = .ok [types, parser]) :
    ∃ rest, parser.text = layout (Header.items ⟨fileNameOf r.grammar, r.moduleName⟩) ++
      (s!"use {modulePathOf types.name}::" ++ "\x7bElementType, TokenType\x7d;\n") ++ rest := by
  obtain ⟨p, t, hunits⟩ := units_of_plan h
  obtain ⟨rfl, rfl⟩ : _ = types ∧ _ = parser := by simpa [units] using hunits
  exact ParserUnit.text_eq _

end Generation.Request

namespace LogicalName

/-- The modules of a name, and the file of its unit, can be declared in generated code, but for the
file if the simple name is a reserved word that was raised. The line after its header with which a
parser brings its types into scope has a path of these parts. -/
theorem module_path_is_usable_iff (n : LogicalName) :
    modulePathOf n = "::".intercalate ("crate" :: (n.modules.map (·.text) ++ [n.stem])) ∧
    n.relativePath = "/".intercalate (n.modules.map (·.text) ++ [n.stem ++ ".rs"]) ∧
    (∀ part ∈ n.modules.map (·.text), IsDeclarable part) ∧
    IsWord n.stem.toList ∧ n.stem ≠ "_" ∧
    (IsDeclarable n.stem ↔ n.simple.text ∉ Text.raisedWords) ∧
    ∀ (r : Generation.Request) (types parser : Generation.Artifact),
      r.plan.artifacts = .ok [types, parser] → types.name = n →
        ∃ rest, parser.text =
          layout (Header.items ⟨Generation.fileNameOf r.grammar, r.moduleName⟩) ++
            (s!"use {modulePathOf n}::" ++ "\x7bElementType, TokenType\x7d;\n") ++ rest := by
  refine ⟨rfl, rfl, n.isDeclarable_modules, Text.isWord_snakeCase n.simple.isWord,
    Text.snakeCase_ne_underscore n.simple.isIdentifier, n.isDeclarable_stem_iff, ?_⟩
  rintro r types parser hplan rfl
  exact Generation.Request.use_line_of_plan hplan

end LogicalName

namespace Generation.Request

/-- The types unit `demo::JSONTypes` is brought into scope as what can be declared. -/
theorem json_types_are_usable : ∃ g,
    Environment.standard.parseGrammar "test.bnf"
      "\x7b parserClass = \"demo::P\" elementTypeHolderClass = \"demo::JSONTypes\" \x7d a ::= B" =
        .ok g ∧ IsDeclarable "json_types" ∧
      ∃ types parser, (⟨g, "", "", ""⟩ : Request).plan.artifacts = .ok [types, parser] ∧
        types.name.relativePath = "demo/json_types.rs" ∧
        ∃ rest, parser.text = layout (Header.items ⟨fileNameOf g, ""⟩) ++
          "use crate::demo::json_types::\x7bElementType, TokenType\x7d;\n" ++ rest := by
  let p : LogicalName := ⟨[⟨"demo", by decide +kernel, by decide +kernel⟩],
    ⟨"P", by decide +kernel, by decide +kernel⟩⟩
  let n : LogicalName := ⟨[⟨"demo", by decide +kernel, by decide +kernel⟩],
    ⟨"JSONTypes", by decide +kernel, by decide +kernel⟩⟩
  obtain ⟨g, hparse, -, hplan⟩ := exists_units_of_attributes "test.bnf"
    "\x7b parserClass = \"demo::P\" elementTypeHolderClass = \"demo::JSONTypes\" \x7d a ::= B"
    [("parserClass", "demo::P"), ("elementTypeHolderClass", "demo::JSONTypes")] p n
    (by decide +kernel) (by decide) (.inl (by decide))
  obtain ⟨-, -, -, -, -, hstem, hplans⟩ := n.module_path_is_usable_iff
  obtain ⟨rest, htext⟩ := hplans _ _ _ hplan rfl
  have hline : s!"use {modulePathOf n}::" ++ "\x7bElementType, TokenType\x7d;\n" =
      "use crate::demo::json_types::\x7bElementType, TokenType\x7d;\n" := by decide +kernel
  have hname : n.stem = "json_types" := by decide +kernel
  have hpath : n.relativePath = "demo/json_types.rs" := by decide +kernel
  refine ⟨g, hparse, hname ▸ hstem.2 (by decide +kernel), _, _, hplan, hpath, rest, ?_⟩
  rw [← hline]
  exact htext

/-- The types unit `demo::Type` is brought into scope as the module `type`, which no code can. -/
theorem type_is_no_module : ∃ g n,
    Environment.standard.parseGrammar "test.bnf"
      "\x7b parserClass = \"demo::P\" elementTypeHolderClass = \"demo::Type\" \x7d a ::= B" =
        .ok g ∧
      LogicalName.parse "demo::Type" = .ok n ∧ modulePathOf n = "crate::demo::type" ∧
      n.relativePath = "demo/type.rs" ∧ ¬ IsDeclarable "type" ∧
      ∃ types parser, (⟨g, "", "", ""⟩ : Request).plan.artifacts = .ok [types, parser] ∧
        types.name = n ∧ ∃ rest, parser.text = layout (Header.items ⟨fileNameOf g, ""⟩) ++
          "use crate::demo::type::\x7bElementType, TokenType\x7d;\n" ++ rest := by
  let p : LogicalName := ⟨[⟨"demo", by decide +kernel, by decide +kernel⟩],
    ⟨"P", by decide +kernel, by decide +kernel⟩⟩
  let n : LogicalName := ⟨[⟨"demo", by decide +kernel, by decide +kernel⟩],
    ⟨"Type", by decide +kernel, by decide +kernel⟩⟩
  obtain ⟨g, hparse, -, hplan⟩ := exists_units_of_attributes "test.bnf"
    "\x7b parserClass = \"demo::P\" elementTypeHolderClass = \"demo::Type\" \x7d a ::= B"
    [("parserClass", "demo::P"), ("elementTypeHolderClass", "demo::Type")] p n
    (by decide +kernel) (by decide) (.inl (by decide))
  obtain ⟨rest, htext⟩ := use_line_of_plan hplan
  refine ⟨g, n, hparse, LogicalName.parse_text n, by decide +kernel, by decide +kernel, ?_,
    _, _, hplan, rfl, rest, ?_⟩
  · exact fun h => h.notReserved (by decide)
  · have hline : s!"use {modulePathOf n}::" ++ "\x7bElementType, TokenType\x7d;\n" =
        "use crate::demo::type::\x7bElementType, TokenType\x7d;\n" := by decide +kernel
    rw [← hline]
    exact htext

end Generation.Request

end GrammarForge
