import GrammarForge.Proofs.Generation.LaterRules
import GrammarForge.Proofs.LogicalName.ModulePaths
import GrammarForge.Proofs.Processing.SharedPaths
import GrammarForge.Proofs.Store.AgreeingStores

/-!
# Collisions of the two units

The names of the types unit and of the parser are checked one by one, and never against each other.
If they are the same, the parser is not written, since its name is there already. If they differ but
share a path, a store in a directory writes the parser over the types unit, while a store in memory,
which knows no paths, keeps both.
-/

namespace GrammarForge

open Generation

namespace Generation.Request

variable {σ ω : Type} {r : Request} {host : Host σ ω} {s : σ} {t p : LogicalName}

/-- Where two artifacts were written, they are the units, under the names that were read. -/
theorem units_of_result (h : r.result host s = .ok [t, p]) :
    r.plan.artifacts = .ok (r.units p t) ∧ LogicalName.parse r.parserSource.2 = .ok p ∧
      (∀ source text, r.typesSource? = some (source, text) → LogicalName.parse text = .ok t) ∧
      (r.typesSource? = none → t = ⟨p.modules, defaultTypesSegment⟩) := by
  have hrules : r.grammar.rules ≠ [] := by
    intro hnil
    rw [result, plan_of_no_rules hnil] at h
    cases h
  by_cases hvalid : ∀ needed ∈ r.neededNames, ∃ n, LogicalName.parse needed.2 = .ok n
  · obtain ⟨parser, types, hplan, hparser, hsome, hnone⟩ := artifacts_of_valid hrules hvalid
    obtain ⟨calls, -, hemission⟩ := trace_of_ok hplan host s
    obtain ⟨rfl, rfl⟩ : t = types ∧ p = parser := by
      simpa [units, artifact] using hemission.names_eq h
    exact ⟨hplan, hparser, hsome, hnone⟩
  · push Not at hvalid
    obtain ⟨source, text, cause, -, -, hplan⟩ := artifacts_of_invalid hrules hvalid
    rw [(trace_of_error hplan host s).2] at h
    cases h

theorem artifacts_of_result (h : r.result host s = .ok [t, p]) :
    ∃ types parser : Artifact, r.plan.artifacts = .ok [types, parser] ∧ types.name = t ∧
      parser.name = p ∧ types.text ≠ parser.text :=
  ⟨_, _, (units_of_result h).1, rfl, rfl, Code.types_text_ne_parser_text _ _ _ _⟩

theorem defaultTypes_eq_iff (p : LogicalName) :
    (⟨p.modules, defaultTypesSegment⟩ : LogicalName) = p ↔ p.simple.text = "Types" := by
  obtain ⟨modules, text, _, _⟩ := p
  simp only [LogicalName.mk.injEq, true_and, defaultTypesSegment, Segment.mk.injEq]
  exact eq_comm

theorem defaultTypes_relativePath_iff (p : LogicalName) :
    (⟨p.modules, defaultTypesSegment⟩ : LogicalName).relativePath = p.relativePath ↔
      p.simple.text ∈ ["types", "Types", "TYPES"] := by
  have hspelled : Text.spellings "types" = ["types", "Types", "TYPES"] := by decide +kernel
  have hstem : LogicalName.stem ⟨p.modules, defaultTypesSegment⟩ = "types" := by
    change Text.snakeCase "Types" = "types"
    decide +kernel
  have hsnake : p.stem = "types" ↔ p.simple.text ∈ Text.spellings "types" :=
    Text.snakeCase_eq_iff p.simple.allIdent (List.all_eq_true.1 (by decide))
  rw [LogicalName.relativePath_eq_iff_stem, hstem, ← hspelled, ← hsnake]
  exact ⟨fun h => h.2.symm, fun h => ⟨rfl, h.symm⟩⟩

end Generation.Request

namespace RunState

variable {δ : Type} [DiagnosticSink δ] {plan : Plan} {a b : Artifact} {names : List LogicalName}

/-- A plan with two artifacts that is carried out without failure emits one after the other. -/
theorem emissions_of_run {σ ω : Type} [ArtifactStore σ ω] {s final : RunState δ σ}
    (hplan : plan.artifacts = .ok [a, b]) (hrun : plan.run host s = (.ok names, final)) :
    ∃ first between : RunState δ σ, first.toWorkspace = s.toWorkspace ∧
      host.emit a first = (.ok (), between) ∧ host.emit b between = (.ok (), final) := by
  simp only [Plan.run, hplan, foldl_warn, Host.emitAll] at hrun
  generalize hs : (⟨s.toWorkspace, _⟩ : RunState δ σ) = first at hrun
  cases hfirst : host.emit a first with
  | mk result between =>
      rw [hfirst] at hrun
      cases result with
      | error e => cases hrun
      | ok =>
          cases hsecond : host.emit b between with
          | mk result last =>
              simp only [hsecond] at hrun
              cases result with
              | error e => cases hrun
              | ok =>
                  cases hrun
                  exact ⟨first, between, hs ▸ rfl, hfirst, hsecond⟩

/-- Carried out into a directory without source roots, the first artifact is made, and the second
one unless it has the same name. -/
theorem requests_of_run {s final : RunState δ DirectoryStore}
    (hplan : plan.artifacts = .ok [a, b]) (hrun : plan.run host s = (.ok names, final))
    (hroots : s.store.sourceRoots = []) (ha : a.name.text ∉ s.store.created)
    (hb : b.name.text ∉ s.store.created) :
    ∃ made next : Requested (RunState δ DirectoryStore), made.artifact = a ∧ next.artifact = b ∧
      made.creates = true ∧ (next.creates = true ↔ a.name ≠ b.name) ∧
        WrittenOn s.toWorkspace [made, next] final.toWorkspace := by
  obtain ⟨first, between, hworkspace, hfirst, hsecond⟩ := emissions_of_run hplan hrun
  have hstore : first.store = s.store := congrArg Workspace.store hworkspace
  let made : Requested (RunState δ DirectoryStore) := ⟨a, first⟩
  let next : Requested (RunState δ DirectoryStore) := ⟨b, between⟩
  have hmade : made.creates = true := Requested.creates_of_emit hfirst
    (Processor.contains_of_no_roots (hstore ▸ hroots) (hstore ▸ ha) _)
  have hbetween : made.after = between.toWorkspace := congrArg (·.2.toWorkspace) hfirst
  have hfinal : next.after = final.toWorkspace := congrArg (·.2.toWorkspace) hsecond
  have hrecord : between.store = s.store.record a.name.text := by
    have hafter := (Requested.after_of_creates hmade).2.1
    rw [hbetween] at hafter
    exact hafter.trans (congrArg (DirectoryStore.record a.name.text) hstore)
  have hlinked : Linked s.toWorkspace [made, next] final.toWorkspace :=
    .cons hworkspace (.cons hbetween.symm (hfinal ▸ .nil))
  refine ⟨made, next, rfl, rfl, hmade, ⟨fun hcreates hname => ?_, fun hname => ?_⟩,
    hlinked.invariant (fun _ _ h => h.concat) (.refl _)⟩
  · have hcontains : between.store.contains b.name.text between.files = true := by
      simp [DirectoryStore.contains, hrecord, DirectoryStore.record, hname]
    have hnot : next.creates = false := Requested.creates_of_contains hcontains
    rw [hcreates] at hnot
    cases hnot
  · have htext : b.name.text ≠ a.name.text := fun h => hname (LogicalName.text_injective h.symm)
    refine Requested.creates_of_emit hsecond (Processor.contains_of_no_roots ?_ ?_ _)
    · exact (congrArg DirectoryStore.sourceRoots hrecord).trans hroots
    · change b.name.text ∉ between.store.created
      rw [hrecord]
      simpa [DirectoryStore.record] using ⟨hb, htext⟩

/-- The first artifact keeps its file unless another one with the same path is made, and the second
one is there unless it has the name of the first. -/
theorem directory_contents {s final : RunState δ DirectoryStore}
    (hplan : plan.artifacts = .ok [a, b]) (hrun : plan.run host s = (.ok names, final))
    (hroots : s.store.sourceRoots = []) (ha : a.name.text ∉ s.store.created)
    (hb : b.name.text ∉ s.store.created) (htexts : a.text ≠ b.text) :
    (final.store.contents? a.name.text final.files = some (encodeText a.text) ↔
      a.name = b.name ∨ a.name.relativePath ≠ b.name.relativePath) ∧
    (final.store.contents? b.name.text final.files = some (encodeText b.text) ↔
      a.name ≠ b.name) := by
  obtain ⟨made, next, rfl, rfl, hmade, hnext, hwritten⟩ := requests_of_run hplan hrun hroots ha hb
  have hencoded : encodeText made.artifact.text ≠ encodeText next.artifact.text :=
    fun h => htexts (encodeText_injective h)
  by_cases hname : made.artifact.name = next.artifact.name
  · have hnot : next.creates = false := by simpa [hname] using hnext
    have hkept : (makersOf made.artifact.name.relativePath [made, next]).getLast? = some made := by
      simp [makersOf, hmade, hnot]
    have hcontents := hwritten.contents?_eq hkept
    rw [← hname, hcontents]
    simpa using hencoded
  · have hcreates : next.creates = true := hnext.2 hname
    have hlast : (makersOf next.artifact.name.relativePath [made, next]).getLast? = some next := by
      have hsplit : makersOf next.artifact.name.relativePath [made, next] =
          makersOf next.artifact.name.relativePath [made] ++ [next] :=
        (List.filter_append [made] [next]).trans (by simp [makersOf, hcreates])
      rw [hsplit, List.getLast?_concat]
    have hcontents := hwritten.contents?_eq hlast
    refine ⟨?_, by simp [hcontents, hname]⟩
    by_cases hpath : made.artifact.name.relativePath = next.artifact.name.relativePath
    · rw [hwritten.contents?_eq (hpath ▸ hlast)]
      simpa [hname, hpath] using hencoded.symm
    · have hkept : (makersOf made.artifact.name.relativePath [made, next]).getLast? =
          some made := by
        simp [makersOf, hmade, Ne.symm hpath]
      rw [hwritten.contents?_eq hkept]
      simp [hpath]

/-- A new artifact that a store in memory does not refuse is added to it. -/
theorem store_of_emit {s t : RunState δ MemoryStore} (hemit : host.emit a s = (.ok (), t))
    (hnew : s.store.contains a.name.text = false) :
    t.store = s.store.add a.name.text (encodeText a.text) := by
  rw [emit_eq_receive, MemoryStore.receive, hnew] at hemit
  simp only [Bool.false_eq_true, if_false] at hemit
  split at hemit
  · cases hemit
  · cases hemit
    rfl

/-- A store in memory that refuses no names takes both artifacts without failure. -/
theorem memory_run {s : RunState δ MemoryStore} (hplan : plan.artifacts = .ok [a, b])
    (hrefused : s.store.refused = []) : (plan.run host s).1 = .ok [a.name, b.name] := by
  have hreceive (store : MemoryStore) (h : store.refused = []) (name : String) (text : Bytes) :
      (store.receive name text).1 = .ok () ∧ (store.receive name text).2.refused = [] := by
    unfold MemoryStore.receive
    by_cases hcontains : store.contains name = true
    · rw [if_pos hcontains]
      exact ⟨rfl, h⟩
    · simp [hcontains, h, MemoryStore.add]
  obtain ⟨hfirst, hrest⟩ := hreceive s.store hrefused a.name.text (encodeText a.text)
  obtain ⟨hsecond, -⟩ := hreceive _ hrest b.name.text (encodeText b.text)
  simp only [Plan.run, hplan, foldl_warn, Host.emitAll, emit_eq_receive, hfirst, hsecond,
    Except.mapError, Except.map]

/-- A store in memory keeps the first artifact, and takes the second one unless it has the name of
the first. -/
theorem memory_contents {s final : RunState δ MemoryStore}
    (hplan : plan.artifacts = .ok [a, b]) (hrun : plan.run host s = (.ok names, final))
    (hsound : s.store.IsSound) (ha : s.store.contains a.name.text = false)
    (hb : s.store.contains b.name.text = false) (htexts : a.text ≠ b.text) :
    final.store.contents? a.name.text = some (encodeText a.text) ∧
    (final.store.contents? b.name.text = some (encodeText b.text) ↔ a.name ≠ b.name) := by
  obtain ⟨first, between, hworkspace, hfirst, hsecond⟩ := emissions_of_run hplan hrun
  have hstore : first.store = s.store := congrArg Workspace.store hworkspace
  have hbetween := store_of_emit hfirst (hstore ▸ ha)
  rw [hstore] at hbetween
  have hadded := hsound.add a.name.text (encodeText a.text)
  have hcontents (other : String) :
      (s.store.add a.name.text (encodeText a.text)).contents? other =
        if other = a.name.text then some (encodeText a.text) else s.store.contents? other :=
    hsound.contents?_add ha other
  have hkept : between.store.contents? a.name.text = some (encodeText a.text) := by
    rw [hbetween, hcontents, if_pos rfl]
  by_cases hname : a.name = b.name
  · have hcontains : between.store.contains b.name.text = true := by
      rw [hbetween] at hkept ⊢
      rw [hadded.contains_eq, ← hname, hkept]
      simp
    have hfinal : final = between := by
      rw [(emit_of_contains hcontains).2] at hsecond
      exact (Prod.mk.inj hsecond).2.symm
    rw [hfinal, ← hname, hkept]
    simpa using fun h => htexts (encodeText_injective h)
  · have htext : b.name.text ≠ a.name.text := fun h => hname (LogicalName.text_injective h.symm)
    have hnew : between.store.contains b.name.text = false := by
      rw [hbetween, hadded.contains_eq, hcontents, if_neg htext]
      exact (hsound.contains_eq _).symm.trans hb
    have hfinal := store_of_emit hsecond hnew
    have hlast (other : String) :
        (between.store.add b.name.text (encodeText b.text)).contents? other =
          if other = b.name.text then some (encodeText b.text)
          else between.store.contents? other :=
      (hbetween ▸ hadded : between.store.IsSound).contents?_add hnew other
    rw [hfinal, hlast, hlast, if_neg htext.symm, if_pos rfl]
    simpa [hname] using hkept

end RunState

namespace Generation.Request

/-- Two units that were written have the same name if and only if the texts of their names are the
same but for blanks, or the parser has the default name of the types; and they share a path if and
only if, in the same module, their simple names have the same snake case. A store in a directory
without source roots has both units as they were generated if and only if they do not share a path,
and a store in memory if and only if they do not have the same name. -/
theorem units_collide_iff {σ ω : Type} {r : Request} {host : Host σ ω} {s : σ} {t p : LogicalName}
    (h : r.result host s = .ok [t, p]) :
    LogicalName.parse r.parserSource.2 = .ok p ∧
    (∀ source text, r.typesSource? = some (source, text) → LogicalName.parse text = .ok t ∧
      (t = p ↔ Text.trim text = Text.trim r.parserSource.2) ∧
      (t.relativePath = p.relativePath ↔ t.modules = p.modules ∧
        Text.snakeCase t.simple.text = Text.snakeCase p.simple.text)) ∧
    (r.typesSource? = none → t.modules = p.modules ∧ t.simple.text = "Types" ∧
      (t = p ↔ p.simple.text = "Types") ∧
      (t.relativePath = p.relativePath ↔ p.simple.text ∈ ["types", "Types", "TYPES"])) ∧
    ∃ types parser, r.plan.artifacts = .ok [types, parser] ∧ types.name = t ∧ parser.name = p ∧
      (∀ (δ : Type) [DiagnosticSink δ] (s final : RunState δ DirectoryStore),
        s.store.sourceRoots = [] → t.text ∉ s.store.created → p.text ∉ s.store.created →
        r.plan.run RunState.host s = (.ok [t, p], final) →
          (final.store.contents? t.text final.files = some (encodeText types.text) ↔
            t = p ∨ t.relativePath ≠ p.relativePath) ∧
          (final.store.contents? p.text final.files = some (encodeText parser.text) ↔ t ≠ p)) ∧
      ∀ (δ : Type) [DiagnosticSink δ] (s final : RunState δ MemoryStore), s.store.IsSound →
        s.store.contains t.text = false → s.store.contains p.text = false →
        r.plan.run RunState.host s = (.ok [t, p], final) →
          final.store.contents? t.text = some (encodeText types.text) ∧
          (final.store.contents? p.text = some (encodeText parser.text) ↔ t ≠ p) := by
  obtain ⟨-, hparser, hsome, hnone⟩ := units_of_result h
  refine ⟨hparser, fun source text hsource => ⟨hsome source text hsource, ?_, ?_⟩,
    fun hsource => ?_, ?_⟩
  · rw [← LogicalName.text_of_parse (hsome source text hsource),
      ← LogicalName.text_of_parse hparser]
    exact LogicalName.text_injective.eq_iff.symm
  · exact LogicalName.relativePath_eq_iff_stem
  · obtain rfl := hnone hsource
    exact ⟨rfl, rfl, defaultTypes_eq_iff p, defaultTypes_relativePath_iff p⟩
  · obtain ⟨types, parser, hplan, rfl, rfl, htexts⟩ := artifacts_of_result h
    refine ⟨types, parser, hplan, rfl, rfl, ?_, ?_⟩
    · intro δ _ s final hroots ht hp hrun
      exact RunState.directory_contents hplan hrun hroots ht hp htexts
    · intro δ _ s final hsound ht hp hrun
      exact RunState.memory_contents hplan hrun hsound ht hp htexts

/-- The units `demo::Types` and `demo::P` do not collide, and are both written. -/
theorem demo_units_are_apart : ∃ g t p types parser,
    Environment.standard.parseGrammar "test.bnf" "\x7b parserClass = \"demo::P\" \x7d a ::= B" =
        .ok g ∧
      (⟨g, "", "", ""⟩ : Request).plan.artifacts = .ok [types, parser] ∧
      (⟨g, "", "", ""⟩ : Request).result RunState.host emptyRun = .ok [t, p] ∧
      LogicalName.parse "demo::P" = .ok p ∧ t.simple.text = "Types" ∧ t ≠ p ∧
      t.relativePath ≠ p.relativePath ∧
      ((⟨g, "", "", ""⟩ : Request).plan.run RunState.host emptyRun).2.store.contents? t.text =
        some (encodeText types.text) ∧
      ((⟨g, "", "", ""⟩ : Request).plan.run RunState.host emptyRun).2.store.contents? p.text =
        some (encodeText parser.text) := by
  let p : LogicalName := ⟨[⟨"demo", by decide +kernel, by decide +kernel⟩],
    ⟨"P", by decide +kernel, by decide +kernel⟩⟩
  obtain ⟨g, hparse, hattributes, hplan⟩ := exists_units_of_attributes "test.bnf"
    "\x7b parserClass = \"demo::P\" \x7d a ::= B" [("parserClass", "demo::P")] p
    ⟨p.modules, defaultTypesSegment⟩ (by decide +kernel) (by decide) (.inr ⟨by decide, rfl⟩)
  have hsource : typesSource? ⟨g, "", "", ""⟩ = none := by
    rw [typesSource?, hattributes]
    rfl
  have hresult : (⟨g, "", "", ""⟩ : Request).result RunState.host emptyRun =
      .ok [⟨p.modules, defaultTypesSegment⟩, p] := RunState.memory_run (s := emptyRun) hplan rfl
  obtain ⟨-, -, hnone, types, parser, hunits, -, -, -, hmemory⟩ :=
    units_collide_iff (r := ⟨g, "", "", ""⟩) hresult
  obtain ⟨-, htypes, hname, hpath⟩ := hnone hsource
  have happart := hname.not.2 (by decide)
  obtain ⟨hfirst, hsecond⟩ := hmemory (List Diagnostic) emptyRun _ (MemoryStore.isSound_new [] [])
    rfl rfl (Prod.ext hresult rfl)
  exact ⟨g, _, p, types, parser, hparse, hunits, hresult, LogicalName.parse_text p, htypes, happart,
    hpath.not.2 (by decide), hfirst, hsecond.2 happart⟩

/-- A parser that is called `demo::Types` has the name of its types, and `demo::JSONParser` and
`demo::JsonParser` have the same path. -/
theorem units_collide : ∃ g g',
    Environment.standard.parseGrammar "test.bnf"
      "\x7b parserClass = \"demo::Types\" \x7d a ::= B" = .ok g ∧
    (∃ n, (⟨g, "", "", ""⟩ : Request).result RunState.host emptyRun = .ok [n, n]) ∧
    Environment.standard.parseGrammar "test.bnf" ("\x7b parserClass = \"demo::JSONParser\" " ++
      "elementTypeHolderClass = \"demo::JsonParser\" \x7d a ::= B") = .ok g' ∧
    ∃ t p, (⟨g', "", "", ""⟩ : Request).result RunState.host emptyRun = .ok [t, p] ∧ t ≠ p ∧
      t.relativePath = p.relativePath := by
  let demo : Segment := ⟨"demo", by decide +kernel, by decide +kernel⟩
  let types : LogicalName := ⟨[demo], defaultTypesSegment⟩
  let upper : LogicalName := ⟨[demo], ⟨"JSONParser", by decide +kernel, by decide +kernel⟩⟩
  let lower : LogicalName := ⟨[demo], ⟨"JsonParser", by decide +kernel, by decide +kernel⟩⟩
  obtain ⟨g, hparse, -, hplan⟩ := exists_units_of_attributes "test.bnf"
    "\x7b parserClass = \"demo::Types\" \x7d a ::= B" [("parserClass", "demo::Types")] types types
    (by decide +kernel) (by decide) (.inr ⟨by decide, rfl⟩)
  obtain ⟨g', hparse', -, hplan'⟩ := exists_units_of_attributes "test.bnf"
    ("\x7b parserClass = \"demo::JSONParser\" " ++
      "elementTypeHolderClass = \"demo::JsonParser\" \x7d a ::= B")
    [("parserClass", "demo::JSONParser"), ("elementTypeHolderClass", "demo::JsonParser")] upper
    lower (by decide +kernel) (by decide) (.inl (by decide))
  exact ⟨g, g', hparse, ⟨types, RunState.memory_run (s := emptyRun) hplan rfl⟩, hparse', lower,
    upper, RunState.memory_run (s := emptyRun) hplan' rfl, by decide +kernel, by decide +kernel⟩

end Generation.Request

end GrammarForge
