import GrammarForge.Proofs.Code.TypesReading
import GrammarForge.Proofs.Processing.GrammarLists

/-!
# What a build prints

Whatever a stream has room for, to print two texts one after the other is to print them as one. So
all that a build prints comes down to one text: the lines for the files to watch, then a line for
each diagnostic of a run that keeps its diagnostics in a list.
-/

namespace GrammarForge

open DiagnosticSink

/-- Lines as they are printed. -/
def bytesOf (lines : List String) : Bytes := encodeText (Code.textOf lines)

theorem encodeText_append (s t : String) : encodeText (s ++ t) = encodeText s ++ encodeText t := by
  simp [encodeText, String.toByteArray_append]

theorem bytesOf_cons (line : String) (lines : List String) :
    bytesOf (line :: lines) = encodeText (line ++ "\n") ++ bytesOf lines := by
  rw [bytesOf, bytesOf, ← encodeText_append, Code.textOf, List.map_cons, String.join_cons]
  rfl

theorem bytesOf_append (lines more : List String) :
    bytesOf (lines ++ more) = bytesOf lines ++ bytesOf more := by
  rw [bytesOf, Code.textOf_append, encodeText_append]
  rfl

/-- The error with which printing ended, if it did. -/
def errorOf : Except SystemError Unit → Option SystemError
  | .ok () => none
  | .error e => some e

namespace OutputStream

variable {s : OutputStream} {bytes more : Bytes} {e : SystemError}

theorem print_nil (s : OutputStream) : s.print [] = (.ok (), s) := by
  obtain ⟨taken, limit, failure⟩ := s
  cases limit <;> simp [print]

/-- The room that is left when what fits of some bytes was taken. -/
theorem room_after (limit : Nat) (taken bytes : Bytes) :
    limit - (taken ++ bytes.take (limit - taken.length)).length =
      limit - taken.length - bytes.length := by
  rw [List.length_append, List.length_take]
  omega

/-- Once something did not fit, nothing more does. -/
theorem print_of_error (h : (s.print bytes).1 = .error e) :
    ((s.print bytes).2.print more).2 = (s.print bytes).2 := by
  obtain ⟨taken, limit, failure⟩ := s
  cases limit with
  | none => cases h
  | some limit =>
      have hfull : limit - taken.length - bytes.length = 0 := by
        simp only [print] at h
        split at h
        · cases h
        · omega
      simp only [print, room_after, hfull, List.take_zero, List.append_nil]

theorem print_append_of_ok (h : (s.print bytes).1 = .ok ()) :
    s.print (bytes ++ more) = (s.print bytes).2.print more := by
  obtain ⟨taken, limit, failure⟩ := s
  cases limit with
  | none => simp [print]
  | some limit =>
      have hfits : bytes.length ≤ limit - taken.length := by
        simp only [print] at h
        split at h
        · assumption
        · cases h
      have hmore : (bytes ++ more).length ≤ limit - taken.length ↔
          more.length ≤ limit - taken.length - bytes.length := by
        rw [List.length_append]
        omega
      simp only [print, room_after, List.take_append, hmore, List.append_assoc]

theorem print_append_of_error (h : (s.print bytes).1 = .error e) :
    s.print (bytes ++ more) = s.print bytes := by
  obtain ⟨taken, limit, failure⟩ := s
  cases limit with
  | none => cases h
  | some limit =>
      have hfull : limit - taken.length < bytes.length := by
        simp only [print] at h
        split at h
        · cases h
        · omega
      have hmore : ¬ (bytes ++ more).length ≤ limit - taken.length := by
        rw [List.length_append]
        omega
      have hnone : more.take (limit - taken.length - bytes.length) = [] := by
        rw [Nat.sub_eq_zero_of_le hfull.le, List.take_zero]
      simp only [print, if_neg hfull.not_ge, if_neg hmore, List.take_append, hnone,
        List.append_nil]

theorem print_append_stream (bytes more : Bytes) (s : OutputStream) :
    (s.print (bytes ++ more)).2 = ((s.print bytes).2.print more).2 := by
  cases hprint : (s.print bytes).1 with
  | ok => rw [print_append_of_ok hprint]
  | error e => rw [print_append_of_error hprint, print_of_error hprint]

end OutputStream

/-- How printing each of these lines ends, when all are printed one after the other. -/
def printResults : List String → OutputStream → List (Except SystemError Unit)
  | [], _ => []
  | line :: rest, s => (s.printLine line).1 :: printResults rest (s.printLine line).2

/-- The first error in printing lines one after the other is the error in printing all at once. -/
theorem findSome?_printResults (lines : List String) (s : OutputStream) :
    (printResults lines s).findSome? errorOf = errorOf (s.print (bytesOf lines)).1 := by
  induction lines generalizing s with
  | nil =>
      have hnone : bytesOf [] = [] := rfl
      rw [hnone, OutputStream.print_nil]
      rfl
  | cons line rest ih =>
      rw [printResults, List.findSome?_cons, bytesOf_cons, ih, OutputStream.printLine]
      cases hline : (s.print (encodeText (line ++ "\n"))).1 with
      | ok => rw [OutputStream.print_append_of_ok hline, errorOf]
      | error e => rw [OutputStream.print_append_of_error hline, hline, errorOf]

namespace DirectiveSink

theorem count_eq (d : Diagnostic) (s : DirectiveSink) :
    s.count d = { s with
      errors := s.errors + if d.isError then 1 else 0
      warnings := s.warnings + if d.isError then 0 else 1 } := by
  obtain ⟨severity, message⟩ := d
  cases severity <;> rfl

theorem emit_eq (d : Diagnostic) (s : DirectiveSink) :
    DiagnosticSink.emit d s =
      ⟨(s.stream.printLine (directive d)).2, s.errors + if d.isError then 1 else 0,
        s.warnings + if d.isError then 0 else 1,
        s.failure.or (errorOf (s.stream.printLine (directive d)).1)⟩ := by
  obtain ⟨stream, errors, warnings, failure⟩ := s
  change emit _ _ = _
  simp only [emit, count_eq]
  obtain ⟨result, stream⟩ := stream.printLine (directive d)
  cases result <;> cases failure <;> rfl

/-- All diagnostics are counted and all are printed, as far as the stream takes them. The failure
that is kept is the first one. -/
theorem emitAll_eq (ds : List Diagnostic) (s : DirectiveSink) :
    emitAll ds s =
      ⟨(s.stream.print (bytesOf (ds.map directive))).2, s.errors + ds.countP (·.isError),
        s.warnings + ds.countP (!·.isError),
        s.failure.or ((printResults (ds.map directive) s.stream).findSome? errorOf)⟩ := by
  induction ds generalizing s with
  | nil =>
      have hnone : bytesOf [] = [] := rfl
      simp [hnone, OutputStream.print_nil, printResults]
  | cons d rest ih =>
      have hfirst : emitAll (d :: rest) s = emitAll rest (DiagnosticSink.emit d s) := rfl
      have hstream : (s.stream.print (bytesOf ((d :: rest).map directive))).2 =
          ((s.stream.printLine (directive d)).2.print (bytesOf (rest.map directive))).2 := by
        rw [List.map_cons, bytesOf_cons, OutputStream.print_append_stream, OutputStream.printLine]
      have hfailure : (printResults ((d :: rest).map directive) s.stream).findSome? errorOf =
          (errorOf (s.stream.printLine (directive d)).1).or ((printResults (rest.map directive)
            (s.stream.printLine (directive d)).2).findSome? errorOf) := by
        rw [List.map_cons, printResults, List.findSome?_cons]
        cases errorOf (s.stream.printLine (directive d)).1 <;> rfl
      rw [hfirst, ih, emit_eq, hstream, hfailure, ← Option.or_assoc]
      cases herror : d.isError <;> simp [herror, Nat.add_assoc, Nat.add_comm 1]

end DirectiveSink

namespace RunState

variable {δ σ : Type} [DiagnosticSink δ]

/-- The same with a sink to which all kept diagnostics were emitted. -/
def replayed (sink : δ) (s : RunState (List Diagnostic) σ) : RunState δ σ :=
  ⟨s.toWorkspace, emitAll s.sink sink⟩

theorem report_replayed (sink : δ) (d : Diagnostic) (s : RunState (List Diagnostic) σ) :
    (s.replayed sink).report d = (s.report d).replayed sink := by
  change _ = (⟨s.toWorkspace, emitAll (s.sink ++ [d]) sink⟩ : RunState δ σ)
  rw [emitAll_append]
  rfl

variable {ω : Type} [ArtifactStore σ ω]

theorem attemptReporting_replayed (sink : δ) (environment : Environment)
    (definition : ParserDefinition) (path : String) (s : RunState (List Diagnostic) σ) :
    (s.replayed sink).attemptReporting environment definition path =
      (s.attemptReporting environment definition path).replayed sink := by
  rw [attemptReporting_replay, attemptReporting_replay environment definition path s]
  simp only [replayed, emitAll_list, emitAll_append]

end RunState

namespace Processor

variable {δ σ : Type} [DiagnosticSink δ]

/-- The processor with a sink to which all kept diagnostics were emitted. -/
def replayed (sink : δ) (p : Processor (List Diagnostic) σ) : Processor δ σ :=
  ⟨p.toRunState.replayed sink, p.environment, p.definition, p.queue⟩

theorem init_replayed (sink : δ) (options : Options) (environment : Environment)
    (definition : ParserDefinition) (s : RunState (List Diagnostic) σ) :
    init options environment definition (s.replayed sink) =
      (init options environment definition s).replayed sink := by
  unfold init
  simp only
  split
  · rfl
  · rw [RunState.report_replayed]
    rfl

variable {ω : Type} [ArtifactStore σ ω]

theorem drain_of_pop? {p : Processor δ σ} {path : String} {queue : GrammarQueue}
    (h : p.queue.pop? = some (path, queue)) :
    p.drain = drain { p with
      toRunState := p.toRunState.attemptReporting p.environment p.definition path
      queue } := by
  rw [drain]
  split
  · next hnone =>
      rw [h] at hnone
      cases hnone
  · next hsome =>
      rw [h] at hsome
      cases hsome
      rfl

theorem drain_replayed (sink : δ) (p : Processor (List Diagnostic) σ) :
    (p.replayed sink).drain = p.drain.replayed sink := by
  fun_induction drain p with
  | case1 p h =>
      rw [drain]
      split
      · rfl
      · next hsome =>
          rw [replayed, h] at hsome
          cases hsome
  | case2 p path queue h s ih =>
      have hpop : (p.replayed sink).queue.pop? = some (path, queue) := h
      have hattempt : (p.toRunState.replayed sink).attemptReporting p.environment p.definition path =
          s.replayed sink :=
        RunState.attemptReporting_replayed sink p.environment p.definition path p.toRunState
      rw [drain_of_pop? hpop, ← ih]
      simp only [replayed, hattempt]

theorem roundAndTake_replayed (sink : δ) (p : Processor (List Diagnostic) σ) :
    (p.replayed sink).roundAndTake = (p.roundAndTake.1, p.roundAndTake.2.replayed sink) := by
  simp only [roundAndTake, runRound, drain_replayed]
  rfl

theorem creatingRounds_replayed (sink : δ) (limit left : Nat) (summary : RoundSummary)
    (p : Processor (List Diagnostic) σ) :
    (p.replayed sink).creatingRounds limit left summary =
      ((p.creatingRounds limit left summary).1,
        (p.creatingRounds limit left summary).2.replayed sink) := by
  induction left generalizing p summary with
  | zero =>
      have hreport := RunState.report_replayed sink (.warning (limitMessage limit)) p.toRunState
      simp only [creatingRounds, replayed, hreport]
  | succ left ih =>
      simp only [creatingRounds, roundAndTake_replayed]
      split
      · rfl
      · exact ih _ _

/-- A run is the same with any sink. What the sink was given is what a list keeps. -/
theorem runRounds_replayed (sink : δ) (maxRounds : Nat) (p : Processor (List Diagnostic) σ) :
    (p.replayed sink).runRounds maxRounds =
      ((p.runRounds maxRounds).1, (p.runRounds maxRounds).2.replayed sink) := by
  simp only [runRounds, creatingRounds_replayed, roundAndTake_replayed]

end Processor

namespace BuildScript

theorem printWatched_eq (stream : OutputStream) (paths : List String) :
    printWatched stream paths = stream.print (bytesOf (paths.map watchDirective)) := by
  induction paths generalizing stream with
  | nil => exact (OutputStream.print_nil stream).symm
  | cons path rest ih =>
      rw [printWatched, List.map_cons, bytesOf_cons, OutputStream.printLine]
      cases hprint : stream.print (encodeText (watchDirective path ++ "\n")) with
      | mk result stream' =>
          have hresult : (stream.print (encodeText (watchDirective path ++ "\n"))).1 = result := by
            rw [hprint]
          cases result with
          | ok => rw [OutputStream.print_append_of_ok hresult, hprint, ← ih]
          | error e => rw [OutputStream.print_append_of_error hresult, hprint]

/-- The run of a build with a list for a sink. -/
def listedRun (paths : List String) (store : DirectoryStore) (files : FileSystem) :
    RoundSummary × Processor (List Diagnostic) DirectoryStore :=
  (Processor.initStandard [(Options.grammarsKey, joinPaths paths)] ⟨⟨store, files⟩, []⟩).runRounds
    Processor.defaultMaxRounds

/-- What is reported in a build, in order. -/
def reported (paths : List String) (store : DirectoryStore) (files : FileSystem) :
    List Diagnostic := (listedRun paths store files).2.sink

/-- A build is a run that keeps its diagnostics in a list, once it has printed what to watch. The
diagnostics are printed afterwards. -/
theorem compileInto_of_printed {paths : List String} {stream watched : OutputStream}
    (h : stream.print (bytesOf (paths.map watchDirective)) = (.ok (), watched))
    (store : DirectoryStore) (files : FileSystem) :
    compileInto paths store stream files =
      let sink := emitAll (reported paths store files) (.new watched)
      ⟨verdict sink (listedRun paths store files).1, sink.stream,
        (listedRun paths store files).2.files⟩ := by
  have hwatched : printWatched stream paths = (.ok (), watched) := by rw [printWatched_eq, h]
  have hok : (printWatched stream paths).1 = .ok () := by rw [hwatched]
  let p : Processor (List Diagnostic) DirectoryStore :=
    .initStandard [(Options.grammarsKey, joinPaths paths)] ⟨⟨store, files⟩, []⟩
  have hprocessor : processorFor paths store watched files =
      p.replayed (DirectiveSink.new watched) :=
    Processor.init_replayed (DirectiveSink.new watched)
      [(Options.grammarsKey, joinPaths paths)] (.empty .light) .standard ⟨⟨store, files⟩, []⟩
  have hrun := Processor.runRounds_replayed (DirectiveSink.new watched) Processor.defaultMaxRounds p
  rw [compileInto_eq hok]
  simp only [hwatched, hprocessor, hrun]
  rfl

end BuildScript

end GrammarForge
