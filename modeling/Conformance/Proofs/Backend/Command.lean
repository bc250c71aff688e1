import Conformance.Backend.Command
import Conformance.Proofs.Backend.ToolMessage
import Conformance.Proofs.Fixture.Case
import Conformance.Proofs.Text.Lines

/-!
# What a tool is given and what is made of its output

A fixture that is text reaches the tool byte by byte: the file in the work directory holds the bytes that the
fixture holds, whatever size the fixture reports.  What the tool makes of it is told by its status; its output adds
the diagnostics.

Main results:

- `Command.sourceFile_decode`: text is written to the file as it was read.
- `Command.delivers_exactly`: what is read of a fixture, and what the tool is given of it.
- `Command.exists_judge`: the result for the output of a tool.
- `Command.compile_classifies`: what is answered for each way in which the run of a tool can end.
- `Command.compile_returns_iff`: when a result is returned for a tool that has ended by itself.
-/

namespace Conformance.Backend.Command

open Fixture (Askable reportedSize)

variable {s : CommandSettings} {isOnPath : Text → Bool} {tool : Tool} {owner : Nat} {w : Workspace}
  {earlier : List Text} {source : Text} {content : ByteArray}

/-- Text is written to the file of a source as it was read. -/
theorem sourceFile_decode (directory : Path) (h : content.IsValidUTF8) :
    sourceFile directory (Text.decode content) = .ok ⟨directory.child sourceName, content⟩ := by
  unfold sourceFile
  rw [Text.encode_decode h]
  rfl

/-- The tool is run on the file of a source. -/
theorem compile_of_sourceFile {file : SourceFile}
    (h : sourceFile (directoryOf owner w.ensure) source = .ok file) :
    compile s isOnPath tool owner w earlier source =
      answer s isOnPath owner w source
        (tool (launch s (directoryOf owner w.ensure)) (writtenFiles (directoryOf owner w.ensure) earlier)
          file) := by
  unfold compile
  dsimp only
  rw [h]

/-- A fixture reaches the tool as it is, or not at all.

A file of text that neither reports nor holds more bytes than the limit is read, and the file that the tool is run
on holds its bytes.  Of any other file, what is read is the text of all its bytes, part by part, and only if it
neither reports nor holds more than the limit.  For the first, as many bytes as the limit allows must be something
to ask for. -/
theorem delivers_exactly (tree : FileTree) (path : Path) (limit : Int) :
    (∀ content reported, path.refusal? = none → tree.find path = .ok (.file content reported) →
        content.IsValidUTF8 → content.size ≤ limit → reported ≤ limit → Askable limit →
        ∃ text, Fixture.read tree path limit = .ok text ∧
          ∀ s isOnPath tool owner w earlier,
            let directory := directoryOf owner w.ensure
            compile s isOnPath tool owner w earlier text =
              answer s isOnPath owner w text
                (tool (launch s directory) (writtenFiles directory earlier)
                  ⟨directory.child sourceName, content⟩)) ∧
      ∀ text, Fixture.read tree path limit = .ok text →
        ∃ entry content, tree.find path = .ok entry ∧ entry.content? = some content ∧
          reportedSize entry ≤ limit ∧ content.size ≤ limit ∧
          Text.Decodes (fun _ => [.char Text.replacementChar]) content.data.toList text.toList := by
  refine ⟨fun content reported hrefusal hfind hvalid hsize hreported haskable => ?_, fun text hread => ?_⟩
  · obtain ⟨n, hn⟩ := haskable (by omega)
    have hread : Fixture.read tree path limit = .ok (Text.decode content) := by
      rw [Fixture.read_of_file hrefusal hfind, if_neg (by omega), hn]
      exact if_neg (by omega)
    exact ⟨Text.decode content, hread, fun s isOnPath tool owner w earlier =>
      compile_of_sourceFile (sourceFile_decode _ hvalid)⟩
  · obtain ⟨entry, content, hfind, hcontent, hreported, hsize, htext⟩ := Fixture.exists_of_read hread
    exact ⟨entry, content, hfind, hcontent, hreported, hsize, Text.decode_eq_iff.mp htext.symm⟩

/-! ## A file that reports no size -/

/-- A text with a mark at its front, a letter of two bytes and a carriage return. -/
def markedText : String :=
  "\uFEFFmodule é;\r\n"

/-- A tree that holds it in a file that reports no size. -/
def markedTree : FileTree where
  top := .directory [("marked.sv", .file markedText.toUTF8 0)]
  current := []

theorem delivers_exactly_marked :
    ∃ text, Fixture.read markedTree ⟨.current, ["marked.sv"]⟩ 15 = .ok text ∧
      ∀ s isOnPath tool owner w earlier,
        let directory := directoryOf owner w.ensure
        compile s isOnPath tool owner w earlier text =
          answer s isOnPath owner w text
            (tool (launch s directory) (writtenFiles directory earlier)
              ⟨directory.child sourceName, markedText.toUTF8⟩) :=
  (delivers_exactly markedTree ⟨.current, ["marked.sv"]⟩ 15).1 markedText.toUTF8 0
    (by decide) rfl markedText.isValidUTF8 (by decide +kernel) (by decide) fun _ => ⟨16, rfl⟩

/-! ## Results -/

variable {status elapsed : Int} {stdout stderr : Text} {file : Path} {errors : List CompileError}
  {warnings : List CompileWarning} {r : SubprocessResult}

/-- The error that stands for a rejection without diagnostics says something. -/
theorem message_plainError_ne_empty (status : Int) (stdout stderr : Text) :
    (plainError status stdout stderr).message ≠ "" := by
  intro hmessage
  have hnil := congrArg Text.toList hmessage
  unfold plainError at hnil
  dsimp only at hnil
  generalize (if stderr.isEmpty then stdout else stderr).toList = output at hnil
  cases hlast : (Text.breakLines (Text.trimBlanks output)).getLast? with
  | none =>
      have hfront : toString "exit status " = "" ∧ status.repr = "" := by simpa [hlast] using hnil
      exact absurd hfront.1 (by decide)
  | some line =>
      rw [hlast] at hnil
      exact Text.getLast?_breakLines_trimBlanks hlast hnil

/-- What a result says about a source, for the status of the tool and the diagnostics in its output. -/
structure Judged (status : Int) (errors : List CompileError) (warnings : List CompileWarning)
    (result : CompileResult) : Prop where
  success : result.success = true ↔ status = 0
  warnings : result.warnings = warnings
  accepted : status = 0 → result.errors = []
  rejected : status ≠ 0 → errors ≠ [] → result.errors = errors
  plain : status ≠ 0 → errors = [] → ∃ error, result.errors = [error] ∧ error.message ≠ ""

/-- A result is made of an output whose diagnostics can be read. -/
theorem exists_judge (source : Text) (elapsed : Int)
    (h : readDiagnostics (stderr ++ "\n" ++ stdout) (some file.toText) = .ok (errors, warnings)) :
    ∃ result, judge source file elapsed status stdout stderr = .ok result ∧
      Judged status errors warnings result := by
  unfold judge
  rw [h]
  refine ⟨_, rfl, ?_⟩
  dsimp only
  by_cases hstatus : status = 0
  · rw [if_pos hstatus]
    exact {
      success := ⟨fun _ => hstatus, fun _ => rfl⟩
      warnings := rfl
      accepted := fun _ => rfl
      rejected := fun hne => absurd hstatus hne
      plain := fun hne => absurd hstatus hne }
  · rw [if_neg hstatus]
    cases errors with
    | nil =>
        exact {
          success := ⟨nofun, fun h => absurd h hstatus⟩
          warnings := rfl
          accepted := fun h => absurd h hstatus
          rejected := fun _ hne => absurd rfl hne
          plain := fun _ _ => ⟨_, rfl, message_plainError_ne_empty status stdout stderr⟩ }
    | cons error rest =>
        exact {
          success := ⟨nofun, fun h => absurd h hstatus⟩
          warnings := rfl
          accepted := fun h => absurd h hstatus
          rejected := fun _ _ => rfl
          plain := fun _ hnil => absurd hnil (List.cons_ne_nil error rest) }

/-- There is a result exactly if the output can be read. -/
theorem exists_judge_iff :
    (∃ result, judge source file elapsed status stdout stderr = .ok result) ↔
      Readable (stderr ++ "\n" ++ stdout) := by
  rw [← exists_readDiagnostics_iff _ (some file.toText)]
  constructor
  · rintro ⟨result, hresult⟩
    cases hread : readDiagnostics (stderr ++ "\n" ++ stdout) (some file.toText) with
    | ok found => exact ⟨found, rfl⟩
    | error e =>
        rw [judge, hread] at hresult
        cases hresult
  · rintro ⟨⟨errors, warnings⟩, hread⟩
    obtain ⟨result, hresult, -⟩ := exists_judge source elapsed hread
    exact ⟨result, hresult⟩

/-! ## Runs of the tool -/

/-- How the run of the tool on a source ends, what is noted and how long it takes.  A source that cannot be
written is not handed to the tool. -/
def ran (s : CommandSettings) (tool : Tool) (owner : Nat) (w : Workspace) (earlier : List Text) (source : Text) :
    Except Failure SubprocessResult × List LogRecord × Int :=
  match sourceFile (directoryOf owner w.ensure) source with
  | .error fault => (.error (.unencodable fault), [], 0)
  | .ok file =>
    tool (launch s (directoryOf owner w.ensure)) (writtenFiles (directoryOf owner w.ensure) earlier) file

/-- What is answered is what is made of the run. -/
theorem ending_compile (isOnPath : Text → Bool) {ending : Except Failure SubprocessResult}
    (h : (ran s tool owner w earlier source).1 = ending) :
    ∃ elapsed, (compile s isOnPath tool owner w earlier source).ending =
      (conclude s source ((directoryOf owner w.ensure).child sourceName) elapsed ending).map .expected := by
  subst h
  exact ⟨(ran s tool owner w earlier source).2.2, rfl⟩

theorem conclude_of_timedOut (h : r.timedOut = true) :
    conclude s source file elapsed (.ok r) =
      .error (.host ((s.command file).headD "" ++ " timed out after " ++ s.timeout.display?.getD "" ++ "s")) :=
  if_pos h

theorem conclude_of_signal (htime : r.timedOut = false) (hsignal : r.returnCode < 0) :
    conclude s source file elapsed (.ok r) =
      .error (.host ((s.command file).headD "" ++ s!" was killed by signal {-r.returnCode}")) := by
  unfold conclude
  dsimp only
  rw [if_neg (Bool.eq_false_iff.mp htime), if_pos hsignal]

/-- A tool that has ended by itself is judged by its status and its output. -/
theorem conclude_of_ended (htime : r.timedOut = false) (hstatus : 0 ≤ r.returnCode) :
    conclude s source file elapsed (.ok r) =
      (judge source file elapsed r.returnCode r.stdout r.stderr).mapError fun e => .badValue e.message := by
  unfold conclude
  dsimp only
  rw [if_neg (Bool.eq_false_iff.mp htime), if_neg (Int.not_lt.mpr hstatus)]
  cases judge source file elapsed r.returnCode r.stdout r.stderr <;> rfl

/-- A tool that was stopped, by the time limit or by a signal, is a failure of the host.  For any other the status
tells whether the source was accepted, and the output tells the diagnostics. -/
theorem compile_classifies (isOnPath : Text → Bool)
    (h : (ran s tool owner w earlier source).1 = .ok r) :
    let file := (directoryOf owner w.ensure).child sourceName
    let ending := (compile s isOnPath tool owner w earlier source).ending
    (r.timedOut = true → ending = .error (.host
        ((s.command file).headD "" ++ " timed out after " ++ s.timeout.display?.getD "" ++ "s"))) ∧
      (r.timedOut = false → r.returnCode < 0 → ending = .error (.host
        ((s.command file).headD "" ++ s!" was killed by signal {-r.returnCode}"))) ∧
      (r.timedOut = false → 0 ≤ r.returnCode → ∀ errors warnings,
        readDiagnostics (r.stderr ++ "\n" ++ r.stdout) (some file.toText) = .ok (errors, warnings) →
          ∃ result, ending = .ok (.expected result) ∧ Judged r.returnCode errors warnings result) := by
  intro file ending
  obtain ⟨elapsed, hending⟩ := ending_compile isOnPath h
  refine ⟨fun htime => ?_, fun htime hsignal => ?_, fun htime hstatus errors warnings hread => ?_⟩
  · exact hending.trans (congrArg _ (conclude_of_timedOut htime))
  · exact hending.trans (congrArg _ (conclude_of_signal htime hsignal))
  · obtain ⟨result, hresult, hjudged⟩ := exists_judge source elapsed hread
    refine ⟨result, ?_, hjudged⟩
    rw [conclude_of_ended htime hstatus, hresult] at hending
    exact hending

/-- A tool that rejects every source and writes nothing but blanks and line breaks. -/
def silentTool : Tool :=
  fun _ _ _ => (.ok ⟨2, "", " \n\u2028\x0c", false, false⟩, [], 5)

theorem compile_classifies_silent :
    ∃ result error,
      (compile ⟨["lint"], .int 60, .null⟩ (fun _ => true) silentTool 0 Workspace.empty [] "x").ending =
          .ok (.expected result) ∧
        result.success = false ∧ result.errors = [error] ∧ error.message ≠ "" := by
  have hran : (ran ⟨["lint"], .int 60, .null⟩ silentTool 0 Workspace.empty [] "x").1 =
      .ok ⟨2, "", " \n\u2028\x0c", false, false⟩ := rfl
  obtain ⟨-, -, hended⟩ := compile_classifies (fun _ => true) hran
  obtain ⟨result, hresult, hjudged⟩ := hended rfl (by decide) [] [] rfl
  obtain ⟨error, herror, hmessage⟩ := hjudged.plain (by decide) rfl
  exact ⟨result, error, hresult, by simpa using hjudged.success, herror, hmessage⟩

/-- A result is returned for a tool that has ended by itself exactly if its output can be read; diagnostics can
be read exactly from outputs in which no message has too many digits. -/
theorem compile_returns_iff (isOnPath : Text → Bool)
    (h : (ran s tool owner w earlier source).1 = .ok r) (htime : r.timedOut = false)
    (hstatus : 0 ≤ r.returnCode) :
    ((∃ result, (compile s isOnPath tool owner w earlier source).ending = .ok (.expected result)) ↔
        Readable (r.stderr ++ "\n" ++ r.stdout)) ∧
      ∀ output named, (∃ found, readDiagnostics output named = .ok found) ↔ Readable output := by
  refine ⟨?_, exists_readDiagnostics_iff⟩
  obtain ⟨elapsed, hending⟩ := ending_compile isOnPath h
  rw [hending, conclude_of_ended htime hstatus, ← exists_judge_iff]
  cases judge source ((directoryOf owner w.ensure).child sourceName) elapsed r.returnCode r.stdout r.stderr with
  | error e =>
      constructor
      · rintro ⟨result, hresult⟩
        cases hresult
      · rintro ⟨result, hresult⟩
        cases hresult
  | ok result => exact ⟨fun _ => ⟨result, rfl⟩, fun _ => ⟨result, rfl⟩⟩

/-- A tool that accepts every source and warns at a place. -/
def talkingTool : Tool :=
  fun _ _ _ => (.ok ⟨0, "", "a.sv:42:7: warning: unused", true, false⟩, [], 5)

theorem compile_returns_iff_talking :
    ∃ result, (compile ⟨["lint"], .int 60, .null⟩ (fun _ => true) talkingTool 0 Workspace.empty [] "x").ending =
      .ok (.expected result) := by
  have hran : (ran ⟨["lint"], .int 60, .null⟩ talkingTool 0 Workspace.empty [] "x").1 =
      .ok ⟨0, "", "a.sv:42:7: warning: unused", true, false⟩ := rfl
  obtain ⟨hreturns, hreads⟩ := compile_returns_iff (fun _ => true) hran rfl (by decide)
  refine hreturns.mpr ((hreads _ none).mp ⟨([], [⟨"unused", 42, 7, some "a.sv", .general⟩]), ?_⟩)
  rfl

end Conformance.Backend.Command
