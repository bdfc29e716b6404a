import GrammarForge.Proofs.BuildScript.PrintedLines

/-!
# Builds whose output is cut short

A stream that takes only so many bytes gets the first of those that a stream without a limit gets.
If not even the files to watch can be printed, nothing is generated. Otherwise everything is
generated as ever, but that something could not be printed is how the build ends, whatever was
reported. A stream that is just large enough makes no difference.
-/

namespace GrammarForge.BuildScript

open DiagnosticSink DirectiveSink

theorem print_limited (n : Nat) (e : SystemError) (bytes : Bytes) :
    (OutputStream.limited n e).print bytes =
      (if bytes.length ≤ n then .ok () else .error e, ⟨bytes.take n, some n, e⟩) := rfl

/-- How a build ends that could print everything. -/
def verdictOn (ds : List Diagnostic) (summary : RoundSummary) : Except BuildError RoundSummary :=
  let errors := ds.countP (·.isError)
  if 0 < errors then .error (.reported errors) else .ok summary

/-- How a build ends, going by how the last printing ended. -/
def verdictAfter (result : Except SystemError Unit) (ds : List Diagnostic)
    (summary : RoundSummary) : Except BuildError RoundSummary :=
  match result with
  | .ok () => verdictOn ds summary
  | .error e => .error (.unprintable e)

theorem verdict_emitAll (ds : List Diagnostic) (stream : OutputStream) (summary : RoundSummary) :
    verdict (emitAll ds (.new stream)) summary =
      verdictAfter (stream.print (bytesOf (ds.map directive))).1 ds summary := by
  rw [emitAll_eq, findSome?_printResults]
  simp only [verdict, takeFailure, DirectiveSink.new, Option.none_or, Nat.zero_add]
  cases (stream.print (bytesOf (ds.map directive))).1 with
  | error e => rfl
  | ok =>
      simp only [errorOf, verdictAfter, verdictOn]
      by_cases hnone : ds.countP (·.isError) = 0
      · simp [hnone]
      · rw [if_neg hnone, if_pos (Nat.pos_of_ne_zero hnone)]

/-- The lines of a build, if it can print all of them. -/
def outputLines (paths : List String) (store : DirectoryStore) (files : FileSystem) :
    List String :=
  paths.map watchDirective ++ (reported paths store files).map directive

section Builds

variable {paths : List String} {stream : OutputStream} (store : DirectoryStore)
  (files : FileSystem)

/-- What is printed is one text, and whether all of it could be printed decides how the build
ends. -/
theorem compileInto_of_ok
    (h : (stream.print (bytesOf (paths.map watchDirective))).1 = .ok ()) :
    compileInto paths store stream files =
      let printed := stream.print (bytesOf (outputLines paths store files))
      let run := listedRun paths store files
      ⟨verdictAfter printed.1 run.2.sink run.1, printed.2, run.2.files⟩ := by
  have hwatched : stream.print (bytesOf (paths.map watchDirective)) =
      (.ok (), (stream.print (bytesOf (paths.map watchDirective))).2) := Prod.ext h rfl
  have hprinted : stream.print (bytesOf (outputLines paths store files)) =
      (stream.print (bytesOf (paths.map watchDirective))).2.print
        (bytesOf ((reported paths store files).map directive)) := by
    rw [outputLines, bytesOf_append, OutputStream.print_append_of_ok h]
  rw [compileInto_of_printed hwatched]
  simp only [verdict_emitAll, hprinted]
  rw [emitAll_eq]
  rfl

theorem compileInto_of_error {e : SystemError}
    (h : (stream.print (bytesOf (paths.map watchDirective))).1 = .error e) :
    compileInto paths store stream files =
      ⟨.error (.unprintable e), (stream.print (bytesOf (outputLines paths store files))).2,
        files⟩ := by
  have hwatched : (printWatched stream paths).1 = .error e := by rw [printWatched_eq, h]
  rw [compileInto_of_unprintable hwatched, printWatched_eq, outputLines, bytesOf_append,
    OutputStream.print_append_of_error h]

theorem compileInto_unlimited (paths : List String) :
    compileInto paths store .unlimited files =
      let run := listedRun paths store files
      ⟨verdictOn run.2.sink run.1, ⟨bytesOf (outputLines paths store files), none, .writeZero⟩,
        run.2.files⟩ :=
  compileInto_of_ok store files rfl

variable {n : Nat}

theorem compileInto_limited_of_lt (h : n < (bytesOf (paths.map watchDirective)).length)
    (e : SystemError) :
    compileInto paths store (.limited n e) files =
      ⟨.error (.unprintable e), ⟨(bytesOf (outputLines paths store files)).take n, some n, e⟩,
        files⟩ := by
  have hprint : ((OutputStream.limited n e).print (bytesOf (paths.map watchDirective))).1 =
      .error e := by
    rw [print_limited, if_neg h.not_ge]
  rw [compileInto_of_error store files hprint, print_limited]

theorem compileInto_limited_of_le (h : (bytesOf (paths.map watchDirective)).length ≤ n)
    (e : SystemError) :
    compileInto paths store (.limited n e) files =
      let text := bytesOf (outputLines paths store files)
      let run := listedRun paths store files
      ⟨if n < text.length then .error (.unprintable e) else verdictOn run.2.sink run.1,
        ⟨text.take n, some n, e⟩, run.2.files⟩ := by
  have hprint : ((OutputStream.limited n e).print (bytesOf (paths.map watchDirective))).1 =
      .ok () := by
    rw [print_limited, if_pos h]
  rw [compileInto_of_ok store files hprint, print_limited]
  by_cases hfits : (bytesOf (outputLines paths store files)).length ≤ n
  · simp only [if_pos hfits, if_neg hfits.not_gt, verdictAfter]
  · simp only [if_neg hfits, if_pos (Nat.lt_of_not_le hfits), verdictAfter]

end Builds

/-- A build that can print `n` bytes prints the first `n` bytes of what it prints if there is no
limit. If the files to watch take more, the build fails and makes no file. Otherwise it makes the
same files as without the limit, and fails if anything could not be printed, else ends in the same
way: with the number of errors that were reported, or with the summary if there were none. A sink
counts whatever it is given, and hands over the first error in printing once. -/
theorem limited_build (paths : List String) (store : DirectoryStore) (files : FileSystem) (n : Nat)
    (e : SystemError) :
    let whole := compileInto paths store .unlimited files
    let cut := compileInto paths store (.limited n e) files
    let text := whole.stream.taken
    let watched := bytesOf (paths.map watchDirective)
    let run := listedRun paths store files
    let errors := run.2.sink.countP (·.isError)
    text = watched ++ bytesOf (run.2.sink.map directive) ∧
      whole.result = (if 0 < errors then .error (.reported errors) else .ok run.1) ∧
      cut.stream.taken = text.take n ∧
      (n < watched.length → cut.result = .error (.unprintable e) ∧ cut.files = files) ∧
      (watched.length ≤ n → cut.files = whole.files ∧
        cut.result = if n < text.length then .error (.unprintable e) else whole.result) ∧
      ∀ (sink : DirectiveSink) (ds : List Diagnostic),
        let after := emitAll ds sink
        after.errors = sink.errors + ds.countP (·.isError) ∧
          after.warnings = sink.warnings + ds.countP (!·.isError) ∧
          after.takeFailure.1 =
            sink.failure.or ((printResults (ds.map directive) sink.stream).findSome? errorOf) ∧
          after.takeFailure.2 = { after with failure := none } ∧
          after.takeFailure.2.takeFailure.1 = none := by
  intro whole cut text watched run errors
  have hwhole : whole = ⟨verdictOn run.2.sink run.1,
      ⟨bytesOf (outputLines paths store files), none, .writeZero⟩, run.2.files⟩ :=
    compileInto_unlimited store files paths
  have htext : text = bytesOf (outputLines paths store files) :=
    congrArg (·.stream.taken) hwhole
  have hshort (h : n < watched.length) : cut = ⟨.error (.unprintable e),
      ⟨(bytesOf (outputLines paths store files)).take n, some n, e⟩, files⟩ :=
    compileInto_limited_of_lt store files h e
  have hlong (h : watched.length ≤ n) : cut =
      ⟨if n < (bytesOf (outputLines paths store files)).length then .error (.unprintable e)
        else verdictOn run.2.sink run.1,
        ⟨(bytesOf (outputLines paths store files)).take n, some n, e⟩, run.2.files⟩ :=
    compileInto_limited_of_le store files h e
  refine ⟨?_, congrArg Outcome.result hwhole, ?_, fun h => ?_, fun h => ?_, fun sink ds => ?_⟩
  · rw [htext, outputLines, bytesOf_append]
    rfl
  · rw [htext]
    rcases Nat.lt_or_ge n watched.length with h | h
    · rw [hshort h]
    · rw [hlong h]
  · rw [hshort h]
    exact ⟨rfl, rfl⟩
  · rw [hlong h, hwhole, htext]
    exact ⟨rfl, rfl⟩
  · intro after
    have hafter : after = _ := emitAll_eq ds sink
    refine ⟨?_, ?_, ?_, rfl, rfl⟩
    · rw [hafter]
    · rw [hafter]
    · rw [hafter, takeFailure]

end GrammarForge.BuildScript
