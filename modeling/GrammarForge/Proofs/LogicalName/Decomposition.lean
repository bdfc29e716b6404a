import GrammarForge.Generation.Host
import GrammarForge.Proofs.Code.UsableNames
import GrammarForge.Proofs.Generation.CallTraces
import GrammarForge.Proofs.LogicalName.Components

/-!
# Names and their segments

What is a name can be said of its text alone: identifiers that are not reserved, with `::` between
them. Such a text comes apart in the same way wherever one begins to cut it. From the left it is the
list of its segments; from the right it is the simple name and, if there is more, the module path.
So a name can be put together again from its parts, and from the module path and any identifier that
is not reserved.
-/

namespace GrammarForge

open Code

theorem Segment.isDeclarable (s : Segment) : IsDeclarable s.text :=
  isDeclarable_iff.2 ⟨s.isIdentifier, s.notReserved⟩

namespace LogicalName

/-! ## Cutting from the left and from the right -/

/-- Cut at the first `::`: what stands before it, and what after it. -/
def cutFirst? : List Char → Option (List Char × List Char)
  | [] => none
  | ':' :: ':' :: rest => some ([], rest)
  | c :: rest => (cutFirst? rest).map fun (before, after) => (c :: before, after)

/-- Cut at the last `::`, which is the first one for who reads from the right. -/
def cutLast? (cs : List Char) : Option (List Char × List Char) :=
  (cutFirst? cs.reverse).map fun (after, before) => (before.reverse, after.reverse)

/-- What stands between the `::` of a text, the leftmost first. -/
def cut (s : String) : List String :=
  String.ofList (splitChars s.toList).1 :: (splitChars s.toList).2.map String.ofList

/-- What stands before the last `::` of a text, if there is one. -/
def beforeLast? (s : String) : Option String :=
  (cutLast? s.toList).map fun (before, _) => String.ofList before

/-- What stands after the last `::` of a text. Without one this is the text. -/
def afterLast (s : String) : String :=
  ((cutLast? s.toList).map fun (_, after) => String.ofList after).getD s

theorem cutFirst?_of_notMem {cs : List Char} (h : ':' ∉ cs) : cutFirst? cs = none := by
  induction cs with
  | nil => rfl
  | cons c rest ih =>
      obtain ⟨hc, hrest⟩ : ':' ≠ c ∧ ':' ∉ rest := by simpa using h
      have hstep : cutFirst? (c :: rest) =
          (cutFirst? rest).map fun (before, after) => (c :: before, after) := by
        rw [cutFirst?]
        intro _ hcolon
        exact absurd hcolon.symm hc
      rw [hstep, ih hrest]
      rfl

theorem cutFirst?_append {piece : List Char} (h : ':' ∉ piece) (rest : List Char) :
    cutFirst? (piece ++ ':' :: ':' :: rest) = some (piece, rest) := by
  induction piece with
  | nil => rfl
  | cons c piece ih =>
      obtain ⟨hc, hpiece⟩ : ':' ≠ c ∧ ':' ∉ piece := by simpa using h
      have hstep : cutFirst? (c :: (piece ++ ':' :: ':' :: rest)) =
          (cutFirst? (piece ++ ':' :: ':' :: rest)).map
            fun (before, after) => (c :: before, after) := by
        rw [cutFirst?]
        intro _ hcolon
        exact absurd hcolon.symm hc
      rw [List.cons_append, hstep, ih hpiece]
      rfl

theorem cutLast?_of_notMem {cs : List Char} (h : ':' ∉ cs) : cutLast? cs = none := by
  rw [cutLast?, cutFirst?_of_notMem (by simpa using h)]
  rfl

theorem cutLast?_append (before : List Char) {piece : List Char} (h : ':' ∉ piece) :
    cutLast? (before ++ ':' :: ':' :: piece) = some (before, piece) := by
  have hreverse : (before ++ ':' :: ':' :: piece).reverse =
      piece.reverse ++ ':' :: ':' :: before.reverse := by simp
  rw [cutLast?, hreverse, cutFirst?_append (by simpa using h)]
  simp

/-! ## Cutting names -/

variable (n : LogicalName)

theorem cut_text : cut n.text = n.segments.map (·.text) := by
  obtain ⟨first, rest, heq, -⟩ := ofSegments_append n.modules n.simple
  rw [cut, text, segments, heq, splitChars_joinSegments]
  simp

/-- What the text of a name is made of, seen from its end. -/
theorem toList_text : n.text.toList = n.simple.text.toList ∧ n.modules = [] ∨
    ∃ module, n.modulePath? = some module ∧
      n.text.toList = module.toList ++ ':' :: ':' :: n.simple.text.toList := by
  rw [text, segments, modulePath?]
  cases hmodules : n.modules with
  | nil => exact .inl ⟨by simp [joinSegments], rfl⟩
  | cons s rest =>
      refine .inr ⟨joinSegments (s :: rest), rfl, ?_⟩
      rw [List.cons_append, toList_joinSegments_cons, toList_joinSegments_cons,
        List.flatMap_append]
      simp

theorem cutLast?_text : cutLast? n.text.toList =
    n.modulePath?.map fun module => (module.toList, n.simple.text.toList) := by
  have hsimple : ':' ∉ n.simple.text.toList := n.simple.notMem (by decide)
  rcases n.toList_text with ⟨htext, hmodules⟩ | ⟨module, hmodule, htext⟩
  · rw [htext, cutLast?_of_notMem hsimple, modulePath?, hmodules]
    rfl
  · rw [htext, cutLast?_append _ hsimple, hmodule]
    rfl

/-- The module path is what stands before the last `::`. -/
theorem beforeLast?_text : beforeLast? n.text = n.modulePath? := by
  rw [beforeLast?, cutLast?_text]
  cases n.modulePath? with
  | none => rfl
  | some module => simp

/-- The simple name is what stands after the last `::`. -/
theorem afterLast_text : afterLast n.text = n.simple.text := by
  rw [afterLast, cutLast?_text]
  rcases n.toList_text with ⟨htext, hmodules⟩ | ⟨module, hmodule, -⟩
  · have hnone : n.modulePath? = none := by rw [modulePath?, hmodules]; rfl
    rw [hnone]
    exact String.toList_inj.1 htext
  · rw [hmodule]
    simp

theorem dropLast_segments : n.segments.dropLast = n.modules := List.dropLast_concat

theorem getLast?_segments : n.segments.getLast? = some n.simple := List.getLast?_concat

theorem length_fileComponents : n.fileComponents.length = n.segments.length := by
  simp [fileComponents, segments]

/-! ## Texts that are names -/

theorem parse_congr {s t : String} (h : Text.trim s = Text.trim t) : parse s = parse t := by
  simp only [parse, h]

/-- Words that can be declared are segments. -/
theorem exists_segments {words : List String} (h : ∀ word ∈ words, IsDeclarable word) :
    ∃ segments : List Segment, segments.map (·.text) = words := by
  induction words with
  | nil => exact ⟨[], rfl⟩
  | cons word rest ih =>
      obtain ⟨hword, hrest⟩ := List.forall_mem_cons.1 h
      obtain ⟨hidentifier, hreserved⟩ := isDeclarable_iff.1 hword
      obtain ⟨segments, hsegments⟩ := ih hrest
      exact ⟨⟨word, hidentifier, hreserved⟩ :: segments, by rw [List.map_cons, hsegments]⟩

/-- A text is a name if, without the blanks around it, it is words with `::` between them. -/
theorem exists_parse_iff {s : String} : (∃ n, parse s = .ok n) ↔
    ∃ words : List String, words ≠ [] ∧ (∀ word ∈ words, IsDeclarable word) ∧
      Text.trim s = "::".intercalate words := by
  constructor
  · rintro ⟨n, hparse⟩
    have hdeclarable : ∀ word ∈ n.segments.map (·.text), IsDeclarable word := by
      intro word hword
      obtain ⟨segment, -, rfl⟩ := List.mem_map.1 hword
      exact segment.isDeclarable
    exact ⟨_, by simp [segments], hdeclarable, (text_of_parse hparse).symm⟩
  · rintro ⟨words, hne, hwords, htrim⟩
    obtain ⟨segments, rfl⟩ := exists_segments hwords
    have hsegments : segments ≠ [] := fun h => hne (h ▸ rfl)
    obtain ⟨modules, simple, rfl⟩ : ∃ modules simple, segments = modules ++ [simple] :=
      ⟨_, _, (List.dropLast_append_getLast hsegments).symm⟩
    let n : LogicalName := ⟨modules, simple⟩
    have htext : Text.trim s = Text.trim n.text := htrim.trans n.trim_text.symm
    exact ⟨n, (parse_congr htext).trans n.parse_text⟩

/-! ## Names beside names -/

/-- The name in the same module with another simple name. -/
theorem exists_sibling {word : String} (h : IsDeclarable word) :
    ∃ m, n.sibling word = .ok m ∧ m.modules = n.modules ∧ m.simple.text = word := by
  obtain ⟨hidentifier, hreserved⟩ := isDeclarable_iff.1 h
  exact ⟨_, n.sibling_text ⟨word, hidentifier, hreserved⟩, rfl, rfl⟩

/-- A name is the same thing for all who take it apart. -/
structure Decomposes : Prop where
  /-- The text of the name stands for the name. -/
  readBack : parse n.text = .ok n
  joined : "::".intercalate (n.segments.map (·.text)) = n.text
  segments : cut n.text = n.segments.map (·.text)
  /-- The module path are the segments before the last one. A name of one segment has none. -/
  modulePath : n.modulePath? = if n.segments.length = 1 then none else
    some ("::".intercalate (n.segments.dropLast.map (·.text)))
  modulePathText : beforeLast? n.text = n.modulePath?
  simple : n.segments.getLast? = some n.simple
  simpleText : afterLast n.text = n.simple.text
  /-- The path has a part for every segment, and each is the name of a file or a directory. -/
  path : Path.parts n.relativePath =
    n.segments.dropLast.map (·.text) ++ [Text.snakeCase n.simple.text ++ ".rs"]
  pathLength : (Path.parts n.relativePath).length = n.segments.length
  pathNormal : ∀ part ∈ Path.parts n.relativePath, Path.IsNormal part
  pathRelative : Path.isAbsolute n.relativePath = false
  siblingSelf : n.sibling n.simple.text = .ok n
  sibling : ∀ word, IsDeclarable word → ∃ m, n.sibling word = .ok m ∧
    m.segments.dropLast = n.segments.dropLast ∧ m.modulePath? = n.modulePath? ∧ m.simple.text = word

theorem decomposes : n.Decomposes where
  readBack := n.parse_text
  joined := rfl
  segments := n.cut_text
  modulePath := by
    rw [modulePath?, dropLast_segments, joinSegments]
    cases hmodules : n.modules with
    | nil => simp [LogicalName.segments, hmodules]
    | cons s rest => simp [LogicalName.segments, hmodules]
  modulePathText := n.beforeLast?_text
  simple := n.getLast?_segments
  simpleText := n.afterLast_text
  path := by rw [parts_relativePath, dropLast_segments, fileComponents]
  pathLength := by rw [parts_relativePath, length_fileComponents]
  pathNormal := by
    rw [parts_relativePath]
    exact n.isNormal_fileComponents
  pathRelative := n.isAbsolute_relativePath
  siblingSelf := n.sibling_text n.simple
  sibling word hword := by
    obtain ⟨m, hm, hmodules, hsimple⟩ := n.exists_sibling hword
    refine ⟨m, hm, ?_, ?_, hsimple⟩
    · rw [dropLast_segments, dropLast_segments, hmodules]
    · rw [modulePath?, modulePath?, hmodules]

end LogicalName

/-! ## Derived names -/

namespace Generation

/-- While artifacts are written no name turns out to be invalid. -/
theorem Host.emitAll_ne_invalidName {σ ω : Type} (host : Host σ ω) (artifacts : List Artifact)
    (s : σ) (source : NameSource) (cause : NameError) :
    (host.emitAll artifacts s).1 ≠ .error (.invalidName source cause) := by
  induction artifacts generalizing s with
  | nil => simp [emitAll]
  | cons a rest ih =>
      have hemit : (host.emit a s).1 ≠ .error (.invalidName source cause) := by
        unfold emit
        split
        · simp
        · next sink s' hopen =>
            cases hfill : (host.fill (encodeText a.text) sink s').1 <;>
              simp [hfill, Except.mapError]
      rw [emitAll]
      split
      · next e s' hfirst => simpa [hfirst] using hemit
      · next s' hfirst =>
          cases hrest : (host.emitAll rest s').1 with
          | error e => simpa [hrest, Except.map] using ih s'
          | ok names => simp [hrest, Except.map]

namespace Request

variable (r : Request)

/-- A text that must be a name comes from an attribute, or from the package. -/
theorem source_ne_derivedTypes {source : NameSource} {text : String}
    (h : (source, text) ∈ r.neededNames) (parser : LogicalName) :
    source ≠ .derivedTypes parser := by
  rintro rfl
  rcases List.mem_cons.1 h with hparser | htypes
  · unfold parserSource at hparser
    split at hparser <;> cases hparser
  · obtain ⟨value, -, hvalue⟩ := Option.map_eq_some_iff.1 (Option.mem_toList.1 htypes)
    cases hvalue

theorem result_ne_derivedTypes {σ ω : Type} (host : Host σ ω) (s : σ) (parser : LogicalName)
    (cause : NameError) : r.result host s ≠ .error (.invalidName (.derivedTypes parser) cause) := by
  by_cases hrules : r.grammar.rules = []
  · rw [result, plan_of_no_rules hrules]
    simp [Plan.run, Host.emitAll]
  by_cases hvalid : ∀ needed ∈ r.neededNames, ∃ n, LogicalName.parse needed.2 = .ok n
  · obtain ⟨p, types, hartifacts, -⟩ := artifacts_of_valid hrules hvalid
    rw [result, Plan.run, hartifacts]
    exact host.emitAll_ne_invalidName _ _ _ _
  · have hinvalid : ∃ needed ∈ r.neededNames, ∀ n, LogicalName.parse needed.2 ≠ .ok n := by
      push Not at hvalid
      exact hvalid
    obtain ⟨source, text, cause', hneeded, -, hartifacts⟩ := artifacts_of_invalid hrules hinvalid
    rw [(trace_of_error hartifacts host s).2]
    intro h
    cases h
    exact r.source_ne_derivedTypes hneeded parser rfl

end Request

end Generation

namespace LogicalName

open Generation

/-- The texts that are names are, without the blanks around them, words that can be declared with
`::` between them, and a name is its text. Whoever takes a name apart finds the same segments, and
beside it there is a name for each such word. So the name of a types unit that is derived from that
of its parser is always valid, whatever grammar, settings and host. -/
theorem decompositions_agree :
    (∀ s : String,
      ((∃ n, parse s = .ok n) ↔ ∃ words : List String, words ≠ [] ∧
        (∀ word ∈ words, IsDeclarable word) ∧ Text.trim s = "::".intercalate words) ∧
      ∀ n, parse s = .ok n → n.text = Text.trim s) ∧
    (∀ n : LogicalName, n.Decomposes) ∧
    ∀ r : Request,
      (r.grammar.attributes.get? typesAttribute = none →
        ∀ parser : LogicalName, ∃ types, r.typesName parser = .ok types ∧
          types.modulePath? = parser.modulePath? ∧ types.simple.text = defaultTypes) ∧
      ∀ (σ ω : Type) (host : Host σ ω) (s : σ) (parser : LogicalName) (cause : NameError),
        r.result host s ≠ .error (.invalidName (.derivedTypes parser) cause) := by
  refine ⟨fun s => ⟨exists_parse_iff, fun n => text_of_parse⟩, decomposes, fun r => ⟨?_, ?_⟩⟩
  · intro hnone parser
    have hsource : r.typesSource? = none := by rw [Request.typesSource?, hnone]; rfl
    exact ⟨_, Request.typesName_of_none hsource parser, rfl, rfl⟩
  · exact fun σ ω host s parser cause => r.result_ne_derivedTypes host s parser cause

/-- A text with blanks around it is a name of three segments, which has a name for its types. -/
theorem json_parser_decomposes : ∃ n types : LogicalName,
    parse " demo::json::JSONParser\n" = .ok n ∧ n.text = "demo::json::JSONParser" ∧
      n.segments.map (·.text) = ["demo", "json", "JSONParser"] ∧
      n.modulePath? = some "demo::json" ∧ n.simple.text = "JSONParser" ∧
      Path.parts n.relativePath = ["demo", "json", "json_parser.rs"] ∧
      n.sibling "Types" = .ok types ∧ types.modulePath? = some "demo::json" ∧
      types.simple.text = "Types" := by
  obtain ⟨hread, hdecomposes, -⟩ := decompositions_agree
  have hwords : ∀ word ∈ ["demo", "json", "JSONParser"], IsDeclarable word := by
    intro word hword
    rw [isDeclarable_iff]
    revert word
    decide
  obtain ⟨n, hn⟩ := (hread " demo::json::JSONParser\n").1.2
    ⟨["demo", "json", "JSONParser"], by simp, hwords, by decide +kernel⟩
  have htext : n.text = "demo::json::JSONParser" :=
    ((hread _).2 n hn).trans (by decide +kernel)
  have hn' := hdecomposes n
  have hsegments : n.segments.map (·.text) = ["demo", "json", "JSONParser"] := by
    rw [← hn'.segments, htext]
    decide +kernel
  have hmodule : n.modulePath? = some "demo::json" := by
    rw [← hn'.modulePathText, htext]
    decide +kernel
  have hsimple : n.simple.text = "JSONParser" := by
    rw [← hn'.simpleText, htext]
    decide +kernel
  have hpath : Path.parts n.relativePath = ["demo", "json", "json_parser.rs"] := by
    rw [hn'.path, List.map_dropLast, hsegments, hsimple]
    decide +kernel
  obtain ⟨types, htypes, -, hbeside, hword⟩ :=
    hn'.sibling "Types" (isDeclarable_iff.2 (by decide))
  exact ⟨n, types, hn, htext, hsegments, hmodule, hsimple, hpath, htypes, hbeside.trans hmodule,
    hword⟩

end LogicalName

end GrammarForge
