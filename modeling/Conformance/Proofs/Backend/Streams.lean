import Conformance.Proofs.Backend.Command

/-!
# Two streams of a tool

The output of a tool is read line by line, so two outputs with a line feed between them are read as each of them is
alone.  In particular the diagnostics in the error stream of a tool stand in front of those in its output stream,
and neither stream changes how the other is read.

Main results:

- `findingsOf_append`: the diagnostics in lines behind one another.
- `readDiagnostics_append`: the diagnostics in two outputs with a line feed between them.
- `readDiagnostics_intercalate`: the diagnostics in many outputs with line feeds between them.
- `Command.streams_apart`: when the diagnostics of two outputs can be read, which ones there are, and what is answered
  for a tool with two streams.
-/

namespace Conformance.Backend

open Text

/-! ## Lines behind one another -/

/-- The diagnostics in lines behind one another are those of the first lines, then those of the others.  An error in
the first lines comes first. -/
theorem findingsOf_append (source : Option Text) (lines more : List (List CodePoint)) :
    findingsOf source (lines ++ more) = do
      let first ← findingsOf source lines
      let second ← findingsOf source more
      return first ++ second := by
  induction lines with
  | nil =>
      rw [List.nil_append]
      cases findingsOf source more <;> rfl
  | cons line rest ih =>
      rw [List.cons_append, findingsOf, findingsOf]
      cases ToolMessage.read? (trimBlanks line) with
      | none => exact ih
      | some message =>
          dsimp only
          cases message.finding source with
          | error e => rfl
          | ok found =>
              rw [ih]
              cases findingsOf source rest with
              | error e => rfl
              | ok first => cases findingsOf source more <;> rfl

/-- Nothing is read from empty lines. -/
theorem findingsOf_of_empty (source : Option Text) {lines : List (List CodePoint)} (h : ∀ line ∈ lines, line = []) :
    findingsOf source lines = .ok [] := by
  induction lines with
  | nil => rfl
  | cons line rest ih =>
      obtain ⟨rfl, hrest⟩ := List.forall_mem_cons.mp h
      exact ih hrest

theorem errorsOf_append (first second : List ToolMessage.Finding) :
    errorsOf (first ++ second) = errorsOf first ++ errorsOf second :=
  List.filterMap_append

theorem warningsOf_append (first second : List ToolMessage.Finding) :
    warningsOf (first ++ second) = warningsOf first ++ warningsOf second :=
  List.filterMap_append

/-- Two outputs with a line feed between them are read one after the other. -/
theorem readDiagnostics_append (a b : Text) (source : Option Text) :
    readDiagnostics (a ++ ("\n" : Text) ++ b) source = do
      let first ← readDiagnostics a source
      let second ← readDiagnostics b source
      return (first.1 ++ second.1, first.2 ++ second.2) := by
  obtain ⟨between, hempty, hlines⟩ := exists_breakLines_lineFeed a.toList b.toList
  have hwhole : (a ++ ("\n" : Text) ++ b).toList = a.toList ++ .char '\n' :: b.toList := by simp
  unfold readDiagnostics
  rw [hwhole, hlines, findingsOf_append, findingsOf_append, findingsOf_of_empty source hempty]
  cases findingsOf source (breakLines a.toList) with
  | error e => rfl
  | ok first =>
      cases findingsOf source (breakLines b.toList) with
      | error e => rfl
      | ok second =>
          simp only [Except.map, bind, Except.bind, pure, Except.pure, List.append_nil]
          rw [errorsOf_append, warningsOf_append]

/-- Two outputs with a line feed between them can be read if each of them can, and then each of them is read as it
is alone. -/
theorem readDiagnostics_append_eq_ok_iff {a b : Text} {source : Option Text}
    {all : List CompileError × List CompileWarning} :
    readDiagnostics (a ++ ("\n" : Text) ++ b) source = .ok all ↔
      ∃ first second, readDiagnostics a source = .ok first ∧ readDiagnostics b source = .ok second ∧
        all = (first.1 ++ second.1, first.2 ++ second.2) := by
  rw [readDiagnostics_append]
  cases readDiagnostics a source with
  | error e => exact ⟨nofun, nofun⟩
  | ok first =>
      cases readDiagnostics b source with
      | error e => exact ⟨nofun, nofun⟩
      | ok second =>
          constructor
          · rintro ⟨⟩
            exact ⟨first, second, rfl, rfl, rfl⟩
          · rintro ⟨_, _, ⟨⟩, ⟨⟩, rfl⟩
            rfl

/-- Outputs with line feeds between them are read one after the other. -/
theorem readDiagnostics_intercalate {texts : List Text} {founds : List (List CompileError × List CompileWarning)}
    {source : Option Text} (h : List.Forall₂ (fun text found => readDiagnostics text source = .ok found) texts founds) :
    readDiagnostics (Text.intercalate "\n" texts) source = .ok (founds.flatMap Prod.fst, founds.flatMap Prod.snd) := by
  induction h with
  | nil => rfl
  | cons hfirst hrest ih =>
      cases hrest with
      | nil =>
          rw [intercalate_singleton, hfirst]
          simp
      | cons _ _ =>
          rw [intercalate_cons_cons]
          exact readDiagnostics_append_eq_ok_iff.mpr ⟨_, _, hfirst, ih, rfl⟩

/-! ## Tools with two streams -/

namespace Command

variable {s : CommandSettings} {tool : Tool} {owner : Nat} {w : Workspace} {earlier : List Text} {source : Text}
  {r : SubprocessResult}

/-- What is answered for a tool that has ended by itself and whose output cannot be read. -/
theorem ending_of_unreadable (isOnPath : Text → Bool) {e : Decimal.ReadingError}
    (h : (ran s tool owner w earlier source).1 = .ok r) (htime : r.timedOut = false) (hstatus : 0 ≤ r.returnCode)
    (hread : readDiagnostics (r.stderr ++ ("\n" : Text) ++ r.stdout)
      (some ((directoryOf owner w.ensure).child sourceName).toText) = .error e) :
    (compile s isOnPath tool owner w earlier source).ending = .error (.badValue e.message) := by
  obtain ⟨elapsed, hending⟩ := ending_compile isOnPath h
  rw [hending, conclude_of_ended htime hstatus, judge, hread]
  rfl

/-- Two outputs with a line feed between them are read as each of them is alone: both can be read exactly if each of
them can, and then the errors of the first stand in front of those of the second, and so do the warnings.

So for a tool that has ended by itself the diagnostics in the error stream stand in front of those in the output
stream, each as they are read of that stream alone; and no result is returned if one of the streams cannot be read. -/
theorem streams_apart :
    (∀ (a b : Text) (named : Option Text),
      ((∃ e, readDiagnostics (a ++ ("\n" : Text) ++ b) named = .error e) ↔
        (∃ e, readDiagnostics a named = .error e) ∨ ∃ e, readDiagnostics b named = .error e) ∧
      ∀ errors warnings errors' warnings', readDiagnostics a named = .ok (errors, warnings) →
        readDiagnostics b named = .ok (errors', warnings') →
        readDiagnostics (a ++ ("\n" : Text) ++ b) named = .ok (errors ++ errors', warnings ++ warnings')) ∧
    ∀ s isOnPath tool owner w earlier source r, (ran s tool owner w earlier source).1 = .ok r →
      r.timedOut = false → 0 ≤ r.returnCode →
      let named := some ((directoryOf owner w.ensure).child sourceName).toText
      let ending := (compile s isOnPath tool owner w earlier source).ending
      (∀ errors warnings errors' warnings', readDiagnostics r.stderr named = .ok (errors, warnings) →
        readDiagnostics r.stdout named = .ok (errors', warnings') →
        ∃ result, ending = .ok (.expected result) ∧
          Judged r.returnCode (errors ++ errors') (warnings ++ warnings') result) ∧
      (∀ e, readDiagnostics r.stderr named = .error e → ending = .error (.badValue e.message)) ∧
      ∀ found e, readDiagnostics r.stderr named = .ok found → readDiagnostics r.stdout named = .error e →
        ending = .error (.badValue e.message) := by
  refine ⟨fun a b named => ⟨?_, fun errors warnings errors' warnings' ha hb => ?_⟩, ?_⟩
  · rw [readDiagnostics_append]
    cases readDiagnostics a named with
    | error e => exact iff_of_true ⟨e, rfl⟩ (.inl ⟨e, rfl⟩)
    | ok first =>
        cases readDiagnostics b named with
        | error e => exact iff_of_true ⟨e, rfl⟩ (.inr ⟨e, rfl⟩)
        | ok second => exact iff_of_false nofun (by rintro (⟨_, ⟨⟩⟩ | ⟨_, ⟨⟩⟩))
  · exact readDiagnostics_append_eq_ok_iff.mpr ⟨_, _, ha, hb, rfl⟩
  · intro s isOnPath tool owner w earlier source r hran htime hstatus named ending
    refine ⟨fun errors warnings errors' warnings' ha hb => ?_, fun e ha => ?_, fun found e ha hb => ?_⟩
    · have hread := readDiagnostics_append_eq_ok_iff.mpr ⟨_, _, ha, hb, rfl⟩
      obtain ⟨elapsed, hending⟩ := ending_compile isOnPath hran
      obtain ⟨result, hresult, hjudged⟩ := exists_judge source elapsed hread
      refine ⟨result, ?_, hjudged⟩
      rw [conclude_of_ended htime hstatus, hresult] at hending
      exact hending
    · refine ending_of_unreadable isOnPath hran htime hstatus ?_
      rw [readDiagnostics_append, ha]
      rfl
    · refine ending_of_unreadable isOnPath hran htime hstatus ?_
      rw [readDiagnostics_append, ha, hb]
      rfl

/-- A tool that rejects every source, with a warning in its error stream, which ends in a carriage return, and an
error in its output stream, which begins with a line separator. -/
def splitTool : Tool :=
  fun _ _ _ => (.ok ⟨1, "\u2028b.sv:2:3: y\x0c", "a.sv:1: warning: x\r", false, false⟩, [], 5)

theorem streams_apart_split :
    readDiagnostics (("a.sv:1: warning: x\r" : Text) ++ ("\n" : Text) ++ ("\u2028b.sv:2:3: y\x0c" : Text)) none =
        .ok ([⟨"y", 2, 3, some "b.sv", .other⟩], [⟨"x", 1, 0, some "a.sv", .general⟩]) ∧
      ∃ result, (compile ⟨["lint"], .int 60, .null⟩ (fun _ => true) splitTool 0 Workspace.empty [] "x").ending =
          .ok (.expected result) ∧
        result.errors = [⟨"y", 2, 3, some "b.sv", .other⟩] ∧
        result.warnings = [⟨"x", 1, 0, some "a.sv", .general⟩] := by
  have hran : (ran ⟨["lint"], .int 60, .null⟩ splitTool 0 Workspace.empty [] "x").1 =
      .ok ⟨1, "\u2028b.sv:2:3: y\x0c", "a.sv:1: warning: x\r", false, false⟩ := rfl
  obtain ⟨hreads, -, -⟩ := streams_apart.2 ⟨["lint"], .int 60, .null⟩ (fun _ => true) splitTool 0 Workspace.empty []
    "x" _ hran rfl (by decide)
  obtain ⟨result, hresult, hjudged⟩ := hreads [] [⟨"x", 1, 0, some "a.sv", .general⟩]
    [⟨"y", 2, 3, some "b.sv", .other⟩] [] (by decide +kernel) (by decide +kernel)
  refine ⟨(streams_apart.1 _ _ none).2 [] [⟨"x", 1, 0, some "a.sv", .general⟩] [⟨"y", 2, 3, some "b.sv", .other⟩] []
    (by decide +kernel) (by decide +kernel), ?_⟩
  exact ⟨result, hresult, hjudged.rejected (by decide) (List.cons_ne_nil _ _), hjudged.warnings⟩

end Command

end Conformance.Backend
