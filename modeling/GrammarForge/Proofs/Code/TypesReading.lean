import GrammarForge.Code.Units
import GrammarForge.Proofs.Code.Identifiers
import GrammarForge.Proofs.Text.Parts

/-!
# Types units are read back

A types unit is read line by line. The variants of an enumeration and the arms of a match stand
between an opening line and a closing line, one on each line.
-/

namespace GrammarForge.Code

/-! ## Lines -/

def linesOf (text : String) : List String := Text.splitAtChar '\n' text

/-- The lines between the first line that is `opening` and the next line that is `closing`. -/
def linesBetween (opening closing : String) (lines : List String) : List String :=
  ((lines.dropWhile (· ≠ opening)).drop 1).takeWhile (· ≠ closing)

/-- The lines of the variants of an enumeration. -/
def enumLines (name text : String) : List String :=
  linesBetween ("pub enum " ++ name ++ " \x7b") "\x7d" (linesOf text)

/-- The line of a variant. -/
def variantLine (variant : String) : String := "    " ++ variant ++ ","

/-- The lines of the arms that tell the names of tokens. -/
def armLines (text : String) : List String :=
  linesBetween "        match *self \x7b" "        \x7d" (linesOf text)

/-- The line of the arm for a token. -/
def TokenDeclaration.armLine (t : TokenDeclaration) : String :=
  "            TokenType::" ++ t.variant ++ " => " ++ Text.literal t.token ++ ","

theorem linesBetween_append {opening closing : String} {before inside : List String}
    (hbefore : opening ∉ before) (hinside : closing ∉ inside) (after : List String) :
    linesBetween opening closing (before ++ opening :: (inside ++ closing :: after)) = inside := by
  have hpass : ∀ line ∈ before, decide (line ≠ opening) = true := by
    intro line hline
    simpa using fun heq : line = opening => hbefore (heq ▸ hline)
  have hkeep : ∀ line ∈ inside, decide (line ≠ closing) = true := by
    intro line hline
    simpa using fun heq : line = closing => hinside (heq ▸ hline)
  rw [linesBetween, List.dropWhile_append_of_pos hpass, List.dropWhile_cons_of_neg (by simp),
    List.drop_one, List.tail_cons, List.takeWhile_append_of_pos hkeep,
    List.takeWhile_cons_of_neg (by simp), List.append_nil]

/-- The text of lines. -/
def textOf (lines : List String) : String := String.join (lines.map (· ++ "\n"))

theorem textOf_append (lines more : List String) :
    textOf (lines ++ more) = textOf lines ++ textOf more := by
  rw [textOf, List.map_append, String.join_append]
  rfl

theorem linesOf_textOf {lines : List String} (h : ∀ line ∈ lines, '\n' ∉ line.toList) :
    linesOf (textOf lines) = lines ++ [""] := by
  induction lines with
  | nil => rfl
  | cons line lines ih =>
      have hline : Text.splitAtChar '\n' line = [line] := by
        simp [Text.splitAtChar, Text.splitChars_of_notMem (h line List.mem_cons_self)]
      have hrest := ih fun other hother => h other (List.mem_cons_of_mem line hother)
      have hsplit : Text.splitAtChar '\n' (line ++ '\n'.toString ++ textOf lines) =
          Text.splitAtChar '\n' line ++ linesOf (textOf lines) :=
        Text.splitAtChar_append line (textOf lines)
      have htext : textOf (line :: lines) = line ++ '\n'.toString ++ textOf lines := by
        rw [textOf, List.map_cons, String.join_cons]
        rfl
      rw [linesOf, htext, hsplit, hline, hrest]
      rfl

/-! ## Layout in lines -/

/-- What a line at this level starts with. -/
def margin (level : Nat) : String := String.join (List.replicate level indentation)

/-- The items are laid out in these lines, and what follows them is indented as they are. -/
def Lays (level : Nat) (items : List Item) (lines : List String) : Prop :=
  layItems level items = (textOf lines, level)

namespace Lays

variable {level : Nat} {items rest : List Item} {lines more : List String}

theorem nil : Lays level [] [] := rfl

theorem cons {item : Item} (hitem : item.lay level = (textOf lines, level))
    (hrest : Lays level rest more) : Lays level (item :: rest) (lines ++ more) := by
  rw [Lays, layItems, hitem]
  simp only
  rw [hrest, textOf_append]

theorem of_line {item : Item} {text : String} (hitem : item.lay level = (layLine level text, level))
    (hrest : Lays level rest more) :
    Lays level (item :: rest) ((margin level ++ text) :: more) := by
  have hline : layLine level text = textOf [margin level ++ text] := by
    simp [layLine, textOf, margin]
  rw [hline] at hitem
  exact cons hitem hrest

theorem line {text : String} (hrest : Lays level rest more) :
    Lays level (.line text :: rest) ((margin level ++ text) :: more) := of_line rfl hrest

theorem doc {text : String} (hrest : Lays level rest more) :
    Lays level (.doc text :: rest) ((margin level ++ ("/// " ++ text)) :: more) := of_line rfl hrest

theorem comment {text : String} (hrest : Lays level rest more) :
    Lays level (.comment text :: rest) ((margin level ++ ("// " ++ text)) :: more) :=
  of_line rfl hrest

theorem blank (hrest : Lays level rest more) : Lays level (.blank :: rest) ("" :: more) := by
  have hline : Item.blank.lay level = (textOf [""], level) := rfl
  exact cons hline hrest

theorem block {header : String} {body : List Item} (hbody : Lays (level + 1) body lines)
    (hrest : Lays level rest more) :
    Lays level (.block header body :: rest) ((margin level ++ (header ++ " \x7b")) ::
      (lines ++ (margin level ++ "\x7d") :: more)) := by
  have hitem : (Item.block header body).lay level =
      (textOf ((margin level ++ (header ++ " \x7b")) :: (lines ++ [margin level ++ "\x7d"])),
        level) := by
    rw [Item.lay, hbody]
    simp [layLine, textOf, margin, String.append_assoc]
  simpa using cons hitem hrest

theorem map_line {α : Type} (text : α → String) (as : List α) :
    Lays level (as.map fun a => .line (text a)) (as.map fun a => margin level ++ text a) := by
  induction as with
  | nil => exact nil
  | cons a as ih => exact line ih

end Lays

/-! ## The lines of a unit -/

/-- The characters of a word stand for themselves in a literal. -/
theorem literal_of_isWord {s : String} (h : IsWord s.toList) :
    Text.literal s = "\"" ++ s ++ "\"" := by
  have hescape : s.toList.flatMap Text.escapeChar = s.toList := by
    have hchar (c : Char) (hc : c ∈ s.toList) : Text.escapeChar c = [c] := by
      have hrest := h.all c hc
      exact Text.forall_ascii (fun c => Text.isIdentRest c = true → Text.escapeChar c = [c])
        (by decide) (Text.isAscii_of_isIdentRest hrest) hrest
    rw [List.flatMap_congr hchar, List.flatMap_singleton']
  rw [Text.literal, hescape, ← String.toList_inj]
  simp

def Header.lines (h : Header) : List String :=
  ("// This file is generated by gramgen from " ++ h.file ++ ". Do not edit.") ::
    ((if h.moduleName = "" then [] else ["// Module: " ++ h.moduleName]) ++ [""])

theorem Header.lays (h : Header) {rest : List Item} {more : List String}
    (hrest : Lays 0 rest more) : Lays 0 (h.items ++ rest) (h.lines ++ more) := by
  unfold Header.items Header.lines
  split
  · exact .comment (.blank hrest)
  · exact .comment (.comment (.blank hrest))

namespace TypesUnit

/-- The variants of `TokenType`. -/
def variants (u : TypesUnit) : List String := u.tokens.map (·.variant)

/-- The lines above the variants of `ElementType`. -/
def linesBeforeElements (u : TypesUnit) : List String :=
  u.header.lines ++ ["/// Element types produced by `" ++ u.parser ++ "`.",
    "#[derive(Debug, Clone, Copy, PartialEq, Eq, Hash)]"]

/-- The lines between the two enumerations. -/
def linesBetweenEnums : List String :=
  ["\x7d", "", "/// Token types referenced by the grammar.",
    "#[derive(Debug, Clone, Copy, PartialEq, Eq, Hash)]"]

/-- The lines between the variants of `TokenType` and the arms. -/
def linesBeforeArms : List String :=
  ["\x7d", "", "impl TokenType \x7b", "    /// The token name as written in the grammar.",
    "    pub fn name(&self) -> &'static str \x7b"]

def lines (u : TypesUnit) : List String :=
  u.linesBeforeElements ++ "pub enum ElementType \x7b" :: (u.elements.map variantLine ++
    (linesBetweenEnums ++ "pub enum TokenType \x7b" :: (u.variants.map variantLine ++
      (linesBeforeArms ++ "        match *self \x7b" ::
        (u.tokens.map (·.armLine) ++
          ["        \x7d", "    \x7d", "\x7d"])))))

theorem lays_items (u : TypesUnit) : Lays 0 u.items u.lines := by
  have helements : Lays 1 (u.elements.map fun variant => .line s!"{variant},")
      (u.elements.map variantLine) := Lays.map_line _ _
  have htokens : Lays 1 (u.tokens.map fun t => .line s!"{t.variant},")
      (u.variants.map variantLine) := by
    rw [variants, List.map_map]
    exact Lays.map_line _ _
  have harms : Lays 3 (u.tokens.map fun t => .line
      s!"TokenType::{t.variant} => {Text.literal t.token},")
      (u.tokens.map (·.armLine)) := Lays.map_line _ _
  have hitems : Lays 0 u.items _ := u.header.lays (.doc (.line (.block helements (.blank
    (.doc (.line (.block htokens (.blank
      (.block (.doc (.block (.block harms .nil) .nil)) .nil)))))))))
  simp only [List.append_assoc, List.cons_append, List.nil_append] at hitems
  simp only [lines, linesBeforeElements, linesBetweenEnums, linesBeforeArms, List.append_assoc,
    List.cons_append, List.nil_append]
  exact hitems

/-- Names are words, and no line ends in the header. -/
structure IsReadable (u : TypesUnit) : Prop where
  file : '\n' ∉ u.header.file.toList
  moduleName : '\n' ∉ u.header.moduleName.toList
  parser : IsWord u.parser.toList
  elements : ∀ variant ∈ u.elements, IsWord variant.toList
  variants : ∀ t ∈ u.tokens, IsWord t.variant.toList
  tokens : ∀ t ∈ u.tokens, IsWord t.token.toList

theorem newline_notMem_lines {u : TypesUnit} (h : u.IsReadable) :
    ∀ line ∈ u.lines, '\n' ∉ line.toList := by
  have hword {s : String} (hs : IsWord s.toList) : '\n' ∉ s.toList := by
    intro hmem
    exact absurd (hs.all _ hmem) (by decide)
  have hheader : ∀ line ∈ u.header.lines, '\n' ∉ line.toList := by
    unfold Header.lines
    split <;> simp [h.file, h.moduleName]
  have helements : ∀ line ∈ u.elements.map variantLine, '\n' ∉ line.toList := by
    simp only [List.forall_mem_map, variantLine]
    intro variant hvariant
    simpa using hword (h.elements variant hvariant)
  have hvariants : ∀ line ∈ u.variants.map variantLine, '\n' ∉ line.toList := by
    simp only [variants, List.forall_mem_map, variantLine]
    intro t ht
    simpa using hword (h.variants t ht)
  have harms : ∀ line ∈ u.tokens.map (·.armLine), '\n' ∉ line.toList := by
    intro line hline
    obtain ⟨t, ht, rfl⟩ := List.mem_map.1 hline
    have hvariant := hword (h.variants t ht)
    have htoken := hword (h.tokens t ht)
    unfold TokenDeclaration.armLine
    rw [literal_of_isWord (h.tokens t ht)]
    simp only [String.toList_append, List.mem_append, not_or]
    exact ⟨⟨⟨⟨by decide, hvariant⟩, by decide⟩, ⟨by decide, htoken⟩, by decide⟩, by decide⟩
  have hparser : '\n' ∉ ("/// Element types produced by `" ++ u.parser ++ "`.").toList := by
    simpa using hword h.parser
  have hbetween : ∀ line ∈ linesBetweenEnums, '\n' ∉ line.toList := by decide
  have hbefore : ∀ line ∈ linesBeforeArms, '\n' ∉ line.toList := by decide
  simp only [lines, linesBeforeElements, List.forall_mem_append, List.forall_mem_cons]
  refine ⟨⟨hheader, hparser, by decide⟩, by decide, helements, hbetween, by decide, hvariants,
    hbefore, by decide, harms, by decide⟩

theorem linesOf_text {u : TypesUnit} (h : u.IsReadable) : linesOf u.text = u.lines ++ [""] := by
  have hlay : layItems 0 u.items = (textOf u.lines, 0) := u.lays_items
  rw [text, layout, hlay]
  exact linesOf_textOf (newline_notMem_lines h)

/-- A line that starts with neither a slash nor a line end is not in the header. -/
theorem notMem_header {line : String} (hne : line ≠ "") (hline : line.toList.head? ≠ some '/')
    (h : Header) : line ∉ h.lines := by
  have hshown (text : String) : line ≠ "// Module: " ++ text := by
    rintro rfl
    simp at hline
  have hgenerated : line ≠
      "// This file is generated by gramgen from " ++ h.file ++ ". Do not edit." := by
    rintro rfl
    simp at hline
  unfold Header.lines
  split <;> simp [hne, hgenerated, hshown]

/-- Variants and arms end with a comma. -/
theorem getLast?_variantLine (variant : String) :
    (variantLine variant).toList.getLast? = some ',' := by
  unfold variantLine
  rw [String.toList_append, List.getLast?_append_of_ne_nil _ (by decide)]
  rfl

theorem getLast?_armLine (t : TokenDeclaration) : t.armLine.toList.getLast? = some ',' := by
  unfold TokenDeclaration.armLine
  rw [String.toList_append, List.getLast?_append_of_ne_nil _ (by decide)]
  rfl

theorem notMem_map {α : Type} {line : String} {lineOf : α → String}
    (hlineOf : ∀ a, (lineOf a).toList.getLast? = some ',') (hline : line.toList.getLast? ≠ some ',')
    (as : List α) : line ∉ as.map lineOf := by
  intro hmem
  obtain ⟨a, -, rfl⟩ := List.mem_map.1 hmem
  exact hline (hlineOf a)

variable {u : TypesUnit}

theorem opening_notMem {line : String} (hne : line ≠ "") (hhead : line.toList.head? ≠ some '/')
    (hderive : line ≠ "#[derive(Debug, Clone, Copy, PartialEq, Eq, Hash)]") :
    line ∉ u.linesBeforeElements := by
  have hproduced : line ≠ "/// Element types produced by `" ++ u.parser ++ "`." := by
    rintro rfl
    simp at hhead
  simp [linesBeforeElements, notMem_header hne hhead, hproduced, hderive]

/-- The variants of `ElementType` are those of the unit. -/
theorem enumLines_elements (h : u.IsReadable) :
    enumLines "ElementType" u.text = u.elements.map variantLine := by
  have hopening : "pub enum ElementType \x7b" ∉ u.linesBeforeElements :=
    opening_notMem (by decide) (by decide) (by decide)
  have hclosing : "\x7d" ∉ u.elements.map variantLine :=
    notMem_map getLast?_variantLine (by decide) _
  obtain ⟨after, hafter⟩ : ∃ after, u.lines ++ [""] =
      u.linesBeforeElements ++ "pub enum ElementType \x7b" ::
        (u.elements.map variantLine ++ "\x7d" :: after) :=
    ⟨_, by simp only [lines, linesBetweenEnums, List.append_assoc, List.cons_append]; rfl⟩
  rw [enumLines, linesOf_text h, hafter]
  exact linesBetween_append hopening hclosing after

/-- The variants of `TokenType` are those of the unit. -/
theorem enumLines_tokens (h : u.IsReadable) :
    enumLines "TokenType" u.text = u.variants.map variantLine := by
  have hbefore : "pub enum TokenType \x7b" ∉ u.linesBeforeElements :=
    opening_notMem (by decide) (by decide) (by decide)
  have helements : "pub enum TokenType \x7b" ∉ u.elements.map variantLine :=
    notMem_map getLast?_variantLine (by decide) _
  have hopening : "pub enum TokenType \x7b" ∉ u.linesBeforeElements ++
      "pub enum ElementType \x7b" :: (u.elements.map variantLine ++ linesBetweenEnums) := by
    simp [hbefore, helements, linesBetweenEnums]
  have hclosing : "\x7d" ∉ u.variants.map variantLine :=
    notMem_map getLast?_variantLine (by decide) _
  obtain ⟨after, hafter⟩ : ∃ after, u.lines ++ [""] =
      (u.linesBeforeElements ++ "pub enum ElementType \x7b" ::
        (u.elements.map variantLine ++ linesBetweenEnums)) ++ "pub enum TokenType \x7b" ::
        (u.variants.map variantLine ++ "\x7d" :: after) :=
    ⟨_, by simp only [lines, linesBeforeArms, List.append_assoc, List.cons_append]; rfl⟩
  rw [enumLines, linesOf_text h, hafter]
  exact linesBetween_append hopening hclosing after

/-- There is one arm for each variant of `TokenType`. -/
theorem armLines_text (h : u.IsReadable) :
    armLines u.text = u.tokens.map (·.armLine) := by
  have hbefore : "        match *self \x7b" ∉ u.linesBeforeElements :=
    opening_notMem (by decide) (by decide) (by decide)
  have helements : "        match *self \x7b" ∉ u.elements.map variantLine :=
    notMem_map getLast?_variantLine (by decide) _
  have hvariants : "        match *self \x7b" ∉ u.variants.map variantLine :=
    notMem_map getLast?_variantLine (by decide) _
  have hopening : "        match *self \x7b" ∉ (u.linesBeforeElements ++
      "pub enum ElementType \x7b" :: (u.elements.map variantLine ++ linesBetweenEnums)) ++
      "pub enum TokenType \x7b" :: (u.variants.map variantLine ++ linesBeforeArms) := by
    simp [hbefore, helements, hvariants, linesBetweenEnums, linesBeforeArms]
  have hclosing : "        \x7d" ∉ u.tokens.map (·.armLine) :=
    notMem_map getLast?_armLine (by decide) _
  have hlines : u.lines ++ [""] = ((u.linesBeforeElements ++
      "pub enum ElementType \x7b" :: (u.elements.map variantLine ++ linesBetweenEnums)) ++
      "pub enum TokenType \x7b" :: (u.variants.map variantLine ++ linesBeforeArms)) ++
      "        match *self \x7b" :: (u.tokens.map (·.armLine) ++
        "        \x7d" :: ["    \x7d", "\x7d", ""]) := by
    simp only [lines, List.append_assoc, List.cons_append, List.nil_append]
  rw [armLines, linesOf_text h, hlines]
  exact linesBetween_append hopening hclosing _

theorem IsReadable.element_mem (h : u.IsReadable) {variant : String}
    (hvariant : variant ∈ u.elements) : variantLine variant ∈ enumLines "ElementType" u.text := by
  rw [enumLines_elements h]
  exact List.mem_map_of_mem hvariant

theorem IsReadable.token_mem (h : u.IsReadable) {t : TokenDeclaration} (ht : t ∈ u.tokens) :
    variantLine t.variant ∈ enumLines "TokenType" u.text := by
  rw [enumLines_tokens h]
  exact List.mem_map_of_mem (List.mem_map_of_mem ht)

theorem IsReadable.arm_mem (h : u.IsReadable) {t : TokenDeclaration} (ht : t ∈ u.tokens) :
    t.armLine ∈ armLines u.text := by
  rw [armLines_text h]
  exact List.mem_map_of_mem ht

end TypesUnit

end GrammarForge.Code
