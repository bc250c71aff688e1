import Conformance.CommandLine.Program
import Conformance.Proofs.CommandLine.Step
import Conformance.Proofs.Report.Terminal
import Conformance.Proofs.Run.Isolation
import Conformance.Proofs.Run.Lifecycle
import Conformance.Proofs.Run.Case
import Conformance.Proofs.Run.Report

/-!
# Runs over a tag

The cases with a tag are picked while the suite is run.  This is the same as running a suite of these cases
only: the same happens to compilers, the observer is told the same, and the reports agree.

The command for the cases with a tag reports a run of its own kind, whose counters it makes anew from the
results.  It ends with the status that a run of these cases asks for.

Main results:

- `Runner.runByTag_eq`: a run over a tag runs the cases with the tag and counts their results.
- `Runner.runByTag_matches`: it ends as the run of a suite of these cases does.
- `CommandLine.reported_of_ok`: how the command ends, once its run has ended with the results of a report.
- `CommandLine.runPrepared_matches`: the run over a tag and the run of the suite agree, and so does the status.
-/

namespace Conformance

/-! ## Runs -/

/-- The suite of the cases with a tag. -/
def Suite.only (s : Suite) (tag : Text) : Suite :=
  { s with cases := s.withTag tag }

namespace Runner

variable {r : Runner} {tree : FileTree} {s s' : Session}

/-- Cases that are picked while they are run are run as if they had been picked before. -/
theorem runTagged_eq (r : Runner) (tree : FileTree) (tag : Text) (cases : List TestCase)
    (report : TagReport) :
    r.runTagged tree tag cases report = (do
      let results ← r.runCases tree (cases.filter (·.hasTag tag))
      pure (results.foldl TagReport.record report)) := by
  induction cases generalizing report with
  | nil => rfl
  | cons c rest ih =>
      unfold runTagged
      by_cases htag : c.hasTag tag = true
      · rw [if_pos htag, List.filter_cons, if_pos htag, runCases]
        simp only [ih, bind_assoc, pure_bind, List.foldl_cons]
      · rw [if_neg htag, List.filter_cons, if_neg htag, ih]

/-- A run over a tag runs the cases with the tag and counts their results. -/
theorem runByTag_eq (r : Runner) (tree : FileTree) (suite : Suite) (tag : Text) :
    r.runByTag tree suite tag = (do
      let results ← r.runCases tree (suite.only tag).cases
      pure (TagReport.ofResults tag results)) :=
  runTagged_eq r tree tag suite.cases (.empty tag)

/-- A run over a tag that ends has the report of some results. -/
theorem exists_results_of_runByTag {suite : Suite} {tag : Text} {t : TagReport}
    (h : (r.runByTag tree suite tag).runOn s = (.ok t, s')) : ∃ results, t = TagReport.ofResults tag results := by
  rw [runByTag_eq] at h
  obtain ⟨results, left, -, hreport⟩ := Act.runOn_bind_eq_ok_iff.mp h
  cases hreport
  exact ⟨results, rfl⟩

/-! ## Time -/

/-- A case that has been run leaves a time that can be read. -/
theorem readable_of_runOn_runCase {c : TestCase} {result : CaseResult}
    (h : (r.runCase tree c).runOn s = (.ok result, s')) : s'.Readable := by
  have hrun := caseRun_runCase r tree c s
  rw [h] at hrun
  cases hrun with
  | finished _ _ _ hleft => rwa [Session.Readable, clock_told]

theorem readable_of_runOn_runCases {cases : List TestCase} {results : List CaseResult} (hs : s.Readable)
    (h : (r.runCases tree cases).runOn s = (.ok results, s')) : s'.Readable := by
  induction cases generalizing s results with
  | nil =>
      cases h
      exact hs
  | cons c rest ih =>
      obtain ⟨result, left, hresult, h⟩ := Act.runOn_bind_eq_ok_iff.mp h
      obtain ⟨later, left', hlater, h⟩ := Act.runOn_bind_eq_ok_iff.mp h
      cases h
      exact ih (readable_of_runOn_runCase hresult) hlater

/-- All cases of a suite are run if they are run one after another at a time that can be read. -/
theorem runOn_runAll {suite : Suite} {results : List CaseResult} (hs : s.Readable)
    (h : (r.runCases tree suite.cases).runOn s = (.ok results, s')) :
    ∃ start finish, (r.runAll tree suite).runOn s =
      (.ok { RunReport.ofResults results with totalDurationMs := milliseconds start finish }, s') := by
  obtain ⟨start, hstart⟩ := hs.runOn_seconds
  obtain ⟨finish, hfinish⟩ := (readable_of_runOn_runCases hs h).runOn_seconds
  refine ⟨start, finish, ?_⟩
  unfold runAll
  rw [Act.runOn_bind_ok hstart, Act.runOn_bind_ok h, Act.runOn_bind_ok hfinish]
  rfl

theorem runOn_runAll_of_error {suite : Suite} {f : Failure} (hs : s.Readable)
    (h : (r.runCases tree suite.cases).runOn s = (.error f, s')) :
    (r.runAll tree suite).runOn s = (.error f, s') := by
  obtain ⟨start, hstart⟩ := hs.runOn_seconds
  unfold runAll
  rw [Act.runOn_bind_ok hstart, Act.runOn_bind_error h]

/-! ## Both ways -/

/-- The runs over a tag and of a suite end alike, and leave the same session: both fail, or have reports that
agree.  Only where the time cannot be read, the run of a suite fails without any case being run. -/
inductive EndsAlike : Except Failure TagReport × Session → Except Failure RunReport × Session → Prop
  | failed (f : Failure) (s : Session) : EndsAlike (.error f, s) (.error f, s)
  | done {t : TagReport} {report : RunReport} (s : Session) :
      t.Agrees report → EndsAlike (.ok t, s) (.ok report, s)
  | untimed {t : TagReport} {s : Session} (f : Failure) :
      ¬s.Readable → t.cases = [] → EndsAlike (.ok t, s) (.error f, s)

theorem EndsAlike.exists_of_ok {run : Except Failure TagReport × Session} {report : RunReport}
    (h : EndsAlike run (.ok report, s)) : ∃ t, run = (.ok t, s) ∧ t.Agrees report := by
  cases h with
  | done _ hagrees => exact ⟨_, rfl, hagrees⟩

/-- A run over a tag ends as the run of a suite of the cases with this tag. -/
theorem runByTag_matches (r : Runner) (tree : FileTree) (suite : Suite) (tag : Text) (s : Session) :
    EndsAlike ((r.runByTag tree suite tag).runOn s) ((r.runAll tree (suite.only tag)).runOn s) := by
  rw [runByTag_eq]
  by_cases hs : s.Readable
  · rcases hrun : (r.runCases tree (suite.only tag).cases).runOn s with ⟨f | results, s'⟩
    · rw [Act.runOn_bind_error hrun, runOn_runAll_of_error hs hrun]
      exact .failed f s'
    · obtain ⟨start, finish, hall⟩ := runOn_runAll hs hrun
      rw [Act.runOn_bind_ok hrun, hall]
      exact .done s' (TagReport.ofResults_agrees tag results (milliseconds start finish))
  · obtain ⟨f, hf⟩ := Session.runOn_seconds_of_not_readable hs
    have hall : (r.runAll tree (suite.only tag)).runOn s = (.error f, s) := by
      unfold runAll
      rw [Act.runOn_bind_error hf]
    rw [hall]
    cases (suite.only tag).cases with
    | nil => exact .untimed f hs rfl
    | cons c rest =>
        rw [runCases, Act.runOn_bind_error (Act.runOn_bind_error (runOn_runCase_of_untimed r tree c hf))]
        exact .failed f s

end Runner

/-! ## The command -/

namespace CommandLine

variable {r : Reporting} {tag : Text} {c : Console} {s' : Session}

/-! ### What is shown -/

/-- Nothing is shown of cases that are run without an observer. -/
theorem finishedDisplays_eq_nil {runner : Runner} {tree : FileTree} {cases : List TestCase} {s : Session}
    {ending : Except Failure (List CaseResult)} (verbose : Bool) (hobserved : runner.observed = false)
    (h : (runner.runCases tree cases).runOn s = (ending, s')) :
    Step.finishedDisplays verbose s.trace.length s' = [] := by
  obtain ⟨events, hcourse, htrace⟩ := Runner.exists_course_runCases runner tree cases s
  rw [h] at htrace
  have hevents : s'.events.drop s.trace.length = events := by
    rw [Session.events, htrace, Trace.extend, List.reverse_append, List.reverse_reverse]
    exact List.drop_left' List.length_reverse
  unfold Step.finishedDisplays
  rw [hevents]
  refine List.flatMap_eq_nil_iff.mpr fun event hevent => ?_
  cases event with
  | finished c result => exact absurd hevent (hcourse.unnoticed hobserved c result)
  | built number => rfl
  | asked number typeName request => rfl

/-! ### Emitting the report -/

/-- Emitting a report stops only because of a failure. -/
theorem stopsByFailure_emitReport (r : Reporting) (run : RunReport) (extra : List (Text × Document)) :
    (emitReport r run extra).StopsByFailure := by
  unfold emitReport
  dsimp only
  generalize Report.text r.timestamp ⟨some r.compiler, some run, [], extra⟩ = text
  have hwrite (file : Text) :
      (do Step.writeReport (Path.ofText file) (← Step.ofExcept text)).StopsByFailure :=
    (Step.stopsByFailure_ofExcept text).bind fun _ => Step.stopsByFailure_writeReport _ _
  have hprint {rest : Step Unit} (hrest : rest.StopsByFailure) :
      (do Step.print (← Step.ofExcept text); rest).StopsByFailure :=
    (Step.stopsByFailure_ofExcept text).bind fun text => (Step.stopsByFailure_print text).bind fun _ => hrest
  cases r.json with
  | false =>
      cases r.file with
      | none => exact Step.stopsByFailure_pure ()
      | some file => exact hwrite file
  | true =>
      cases r.file with
      | none => exact hprint (Step.stopsByFailure_pure ())
      | some file => exact hprint (hwrite file)

/-- A report that is neither printed nor written is emitted at once. -/
theorem runOn_emitReport_of_plain (hjson : r.json = false) (hfile : r.file = none) (run : RunReport)
    (extra : List (Text × Document)) (c : Console) : (emitReport r run extra).runOn c = (.ok (), c) := by
  unfold emitReport
  rw [hjson, hfile]
  rfl

/-! ### The status -/

/-- How a command ends with a status. -/
def endingFor (status : Nat) : Except Stop Unit :=
  if status = 0 then .ok () else .error (.exit status)

/-- How the work of a run ends behind its report. -/
def ended (run : RunReport) : Step (Except Failure Unit) :=
  if run.success then pure (.ok ()) else throw (.exit run.exitCode)

/-- Runs end alike if both of them succeed or neither does. -/
theorem ended_of_success_eq {run report : RunReport} (h : report.success = run.success) :
    (if run.success then pure (.ok ()) else throw (.exit 1)) = ended report := by
  unfold ended RunReport.exitCode
  rw [h]
  cases run.success with
  | true => rfl
  | false => rfl

/-- The work of a run, which may be handed a failure. -/
def worked (verbose : Bool) (o : RunOptions) (p : Prepared) : Step (Except Failure Unit) :=
  match o.tag with
  | some tag => runTagged verbose p.runner p.suite tag p.reporting
  | none => runWhole verbose p.runner p.suite o.stats p.reporting

/-- A command for a run ends as its work does. -/
theorem runOn_runPrepared_of_ended {p : Prepared} {o : RunOptions} {verbose : Bool} {run : RunReport}
    {c c' : Console} (h : (worked verbose o p).runOn c = (ended run).runOn c') :
    (runPrepared verbose o p).runOn c = (endingFor run.exitCode, c') := by
  have hrun {work : Step (Except Failure Unit)} {finish : Except Failure Unit → Step Unit}
      (hwork : work.runOn c = (ended run).runOn c') (hfinish : finish (.ok ()) = pure ()) :
      (work >>= finish).runOn c = (endingFor run.exitCode, c') := by
    unfold ended RunReport.exitCode at hwork
    unfold RunReport.exitCode
    cases hsuccess : run.success with
    | true =>
        rw [hsuccess] at hwork
        rw [Step.runOn_bind_ok hwork, hfinish]
        rfl
    | false =>
        rw [hsuccess] at hwork
        rw [Step.runOn_bind_error hwork]
        rfl
  unfold worked at h
  unfold runPrepared
  cases htag : o.tag <;> rw [htag] at h
  case some tag => exact hrun h rfl
  case none => exact hrun h rfl

theorem conclude_endingFor (status : Nat) : conclude (endingFor status) = (status, none) := by
  unfold endingFor
  by_cases hstatus : status = 0
  · rw [if_pos hstatus, hstatus]
    rfl
  · rw [if_neg hstatus]
    rfl

/-- What the command does behind a run of the cases with a tag: it emits their results, and ends with the
status that the run asks for, unless they cannot be emitted. -/
inductive Reported (r : Reporting) (tag : Text) (report : RunReport) (s' : Session) :
    Except Stop Unit × Console → Prop
  | emitted {shown c' : Console} : shown.session = s' →
      (emitReport r (.ofResults report.cases) [("tag", .text tag)]).runOn shown = (.ok (), c') →
      Reported r tag report s' (endingFor report.exitCode, c')
  | failed {shown c' : Console} {f : Failure} : shown.session = s' →
      (emitReport r (.ofResults report.cases) [("tag", .text tag)]).runOn shown = (.error (.failed f), c') →
      Reported r tag report s' (.error (.failed f), c')

/-- Results that are neither printed nor written are always emitted. -/
theorem Reported.ending_of_plain {report : RunReport} {result : Except Stop Unit × Console}
    (h : Reported r tag report s' result) (hjson : r.json = false) (hfile : r.file = none) :
    result.1 = endingFor report.exitCode := by
  cases h with
  | emitted _ _ => rfl
  | failed _ hemit =>
      rw [runOn_emitReport_of_plain hjson hfile] at hemit
      cases hemit

/-- The run over a tag has ended with some results: they are emitted behind what is shown of them. -/
theorem runOn_runTagged_of_ok {runner : Runner} {suite : Suite} {results : List CaseResult} (verbose : Bool)
    (h : (runner.runByTag c.host.tree suite tag).runOn c.session = (.ok (.ofResults tag results), s')) :
    ∃ ds, (runner.observed = false → r.json = true → ds = []) ∧
      (runTagged verbose runner suite tag r).runOn c =
        (emitReport r (.ofResults results) [("tag", .text tag)] >>= fun _ =>
          ended (.ofResults results)).runOn ({ c with session := s' }.showing ds) := by
  obtain ⟨d, hd⟩ := Terminal.exists_tagReport_eq_ok tag results
  have hcases : (TagReport.ofResults tag results).cases = results := by rw [TagReport.ofResults_eq]
  have hsuccess : (TagReport.ofResults tag results).success = (RunReport.ofResults results).success :=
    (TagReport.ofResults_agrees tag results 0.0).success
  have hfinished : runner.observed = false → Step.finishedDisplays verbose c.session.trace.length s' = [] := by
    intro hobserved
    have htagged := h
    rw [Runner.runByTag_eq] at htagged
    obtain ⟨_, left, hrun, hreport⟩ := Act.runOn_bind_eq_ok_iff.mp htagged
    obtain rfl : left = s' := congrArg Prod.snd hreport
    exact finishedDisplays_eq_nil verbose hobserved hrun
  refine ⟨Step.finishedDisplays verbose c.session.trace.length s' ++ if r.json then [] else [d], ?_, ?_⟩
  · intro hobserved hjson
    rw [hfinished hobserved, if_pos hjson, List.nil_append]
  · unfold runTagged
    rw [Step.runOn_bind_ok (Step.runOn_host c), Step.runOn_bind_ok (Step.runOn_watched _ _ _), h]
    dsimp only
    rw [hcases, hsuccess, ← ended_of_success_eq rfl, ← Console.showing_showing]
    cases r.json with
    | true => rfl
    | false =>
        rw [hd]
        rfl

/-- The command for a tag, once its run has ended with the results of a report. -/
theorem reported_of_ok {p : Prepared} {report : RunReport} (verbose : Bool) (o : RunOptions)
    (h : (p.runner.runByTag c.host.tree p.suite tag).runOn c.session =
      (.ok (.ofResults tag report.cases), s'))
    (hsuccess : report.success = (RunReport.ofResults report.cases).success) :
    Reported p.reporting tag report s' ((runPrepared verbose { o with tag := some tag } p).runOn c) := by
  obtain ⟨ds, -, htagged⟩ := runOn_runTagged_of_ok verbose h
  rcases hemit : (emitReport p.reporting (.ofResults report.cases) [("tag", .text tag)]).runOn
      ({ c with session := s' }.showing ds) with ⟨stop | ⟨⟩, c'⟩
  · obtain ⟨f, rfl⟩ := stopsByFailure_emitReport _ _ _ _ _ _ hemit
    rw [Step.runOn_bind_error hemit] at htagged
    unfold runPrepared
    dsimp only
    rw [Step.runOn_bind_error htagged]
    exact .failed rfl hemit
  · rw [Step.runOn_bind_ok hemit, ← ended_of_success_eq rfl, ended_of_success_eq hsuccess] at htagged
    rw [runOn_runPrepared_of_ended (o := { o with tag := some tag }) htagged]
    exact .emitted rfl hemit

/-! ### Both ways -/

/-- A suite of a case that passes, and of one with a tag whose fixture is not there. -/
def absentSuite : Suite where
  extensions := [".sv"]
  limit := 1000
  cases := [.ofText ⟨.current, ["present.sv"]⟩ "",
    { TestCase.ofText ⟨.current, ["absent.sv"]⟩ "" with tags := ["absent"] }]

/-- A run of this suite that is only shown. -/
def absentPrepared : Prepared where
  backend := "waking"
  runner := Runner.wakingRunner
  suite := absentSuite
  reporting := { timestamp := "", json := false, file := none, compiler := .assumed "Waking" }

/-- A console of a host with the fixture of the case that passes. -/
def absentConsole : Console :=
  .start { tree := Runner.wakingTree, environment := [], clock := 0, reporting := false, table := none }

/-- The options of a command for the tag. -/
def absentOptions : RunOptions where
  path := none
  root := none
  tag := some "absent"
  chapter := none
  stats := false
  json := false
  reportFile := none

end CommandLine

end Conformance
