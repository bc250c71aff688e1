import Conformance.Proofs.CommandLine.Prepare
import Conformance.Proofs.CommandLine.Tag
import Conformance.Proofs.Fixture.Case
import Conformance.Proofs.Report.Json
import Conformance.Proofs.Run.Completion
import Conformance.Proofs.Run.Report

/-!
# The command that runs cases

A command line for a run that gets as far as running cases ends with a report.  The report tells the results
of the cases, the status tells whether the run is a success, and nothing else is printed.

Main results:

- `runOn_emitReport`: a report that can be written is printed and kept, as far as that is asked for.
- `runOn_runPrepared_of_ok`: how a prepared run ends whose cases have ended.
- `execute_run`: how a command line for a run ends.
-/

namespace Conformance.CommandLine

variable {r : Reporting} {run : RunReport} {extra : List (Text × Document)} {results : List CaseResult}
  {c : Console} {s' : Session}

/-! ## Emitting the report -/

/-- A report is printed or kept in a file. -/
def Reporting.Emits (r : Reporting) : Prop :=
  r.json = true ∨ r.file ≠ none

/-- What is printed if the report has a text. -/
def Reporting.printed (r : Reporting) (text : Text) : Text :=
  if r.json then text ++ "\n" else ""

/-- The files that are left if the report has a text. -/
def Reporting.files (r : Reporting) (tree : FileTree) (text : Text) : FileTree :=
  match r.file with
  | some file => (Report.write tree (Path.ofText file) text).1
  | none => tree

/-- Any text that can be written can be kept in the file that the report is for. -/
def Reporting.Kept (r : Reporting) (tree : FileTree) : Prop :=
  ∀ file, r.file = some file → ∀ text : Text, text.Writable →
    (Report.write tree (Path.ofText file) text).2 = .ok ()

theorem Reporting.files_of_none {tree : FileTree} (hfile : r.file = none) (text : Text) :
    r.files tree text = tree := by
  unfold files
  rw [hfile]

theorem Reporting.Kept.write_eq {tree : FileTree} {file text : Text} (h : r.Kept tree)
    (hfile : r.file = some file) (htext : text.Writable) : Report.write tree (Path.ofText file) text = (r.files tree text, .ok ()) := by
  have hwrite := h file hfile text htext
  unfold files
  rw [hfile]
  exact Prod.ext rfl hwrite

/-- A report that can be written is printed and kept, as far as that is asked for. -/
theorem runOn_emitReport {text : Text}
    (htext : Report.text r.timestamp ⟨some r.compiler, some run, [], extra⟩ = .ok text)
    (hwritable : r.Emits → text.Writable) (hkept : r.Kept c.host.tree) :
    ∃ c', (emitReport r run extra).runOn c = (.ok (), c') ∧ c'.shown = c.shown ∧
      c'.printed = c.printed ++ r.printed text ∧ c'.host.tree = r.files c.host.tree text := by
  have hkeep (c₁ : Console) (hhost : c₁.host = c.host) : ∃ c', (match r.file with
      | some file => do Step.writeReport (Path.ofText file) (← Step.ofExcept (.ok text))
      | none => pure () : Step Unit).runOn c₁ = (.ok (), c') ∧ c'.shown = c₁.shown ∧
        c'.printed = c₁.printed ∧ c'.host.tree = r.files c.host.tree text := by
    rw [← hhost]
    unfold Reporting.files
    cases hfile : r.file with
    | none => exact ⟨c₁, rfl, rfl, rfl, rfl⟩
    | some file =>
        have hwrite := hkept file hfile text (hwritable (.inr (hfile ▸ Option.some_ne_none file)))
        rw [← hhost] at hwrite
        obtain ⟨written, hwritten⟩ := Step.runOn_writeReport hwrite
        exact ⟨_, hwritten, rfl, rfl, rfl⟩
  unfold emitReport Reporting.printed
  dsimp only
  rw [htext]
  cases hjson : r.json with
  | false =>
      rw [if_neg Bool.false_ne_true, if_neg Bool.false_ne_true, Text.append_empty]
      exact hkeep c rfl
  | true =>
      have hprint := Step.runOn_print (Text.writable_iff.mp (hwritable (.inl hjson))) c
      obtain ⟨c', hrun, hshown, hprinted, htree⟩ := hkeep { c with printed := c.printed ++ text ++ "\n" } rfl
      refine ⟨c', ?_, hshown, hprinted.trans (Text.append_assoc _ _ _), htree⟩
      rw [if_pos rfl, Step.runOn_bind_ok (Step.runOn_ofExcept_ok text c), Step.runOn_bind_ok hprint]
      exact hrun

/-! ## Running the cases -/

/-- The cases that a run is about. -/
def Prepared.executed (p : Prepared) (o : RunOptions) : List TestCase :=
  match o.tag with
  | some tag => p.suite.withTag tag
  | none => p.suite.cases

/-- The entries of a report that not every run has. -/
def Prepared.additions (p : Prepared) (o : RunOptions) : List (Text × Document) :=
  match o.tag with
  | some tag => [("tag", .text tag)]
  | none => if o.stats then [("chapters", statisticsDocument p.suite.chapterStatistics)] else []

variable {p : Prepared} {o : RunOptions}

theorem Prepared.executed_sublist (p : Prepared) (o : RunOptions) : (p.executed o).Sublist p.suite.cases := by
  unfold executed
  cases o.tag with
  | some tag => exact List.filter_sublist
  | none => exact List.Sublist.refl _

/-- The entries that not every run has do not touch the results. -/
theorem Prepared.name_ne_results (p : Prepared) (o : RunOptions) :
    ∀ entry ∈ p.additions o, entry.1 ≠ "results" := by
  have hnames : ∀ entry ∈ p.additions o, entry.1 = "tag" ∨ entry.1 = "chapters" := by
    unfold additions
    cases o.tag with
    | some tag => simp
    | none => cases o.stats <;> simp
  intro entry hentry hresults
  rcases hnames entry hentry with hname | hname <;> exact absurd (hname.symm.trans hresults) (by decide)

/-- The entries that not every run has can be written if the tag and the paths of the cases can be. -/
theorem Prepared.writable_additions (htag : ∀ tag, o.tag = some tag → tag.Writable)
    (hpaths : ∀ case ∈ p.suite.cases, case.filePath.toText.Writable) :
    ∀ entry ∈ p.additions o, entry.1.Writable ∧ entry.2.Writable := by
  unfold additions
  cases ho : o.tag with
  | some tag => exact List.forall_mem_singleton.mpr ⟨Text.writable_ofString _, .text (htag tag ho)⟩
  | none =>
      cases o.stats with
      | false => exact fun _ hmem => nomatch hmem
      | true =>
          refine List.forall_mem_singleton.mpr ⟨Text.writable_ofString _, .record fun field hfield => ?_⟩
          obtain ⟨⟨chapter, n⟩, hcount, rfl⟩ := List.mem_map.mp hfield
          obtain ⟨case, hcase, hchapter⟩ := Suite.exists_of_mem_chapterStatistics hcount
          exact ⟨TestCase.writable_chapter (hpaths case hcase) hchapter, .int _⟩

/-- A report sums up results. -/
structure SumsUp (run : RunReport) (results : List CaseResult) : Prop where
  cases : run.cases = results
  counters : run.counters = .ofResults results
  total : run.total = results.length
  success : run.success = true ↔ ∀ result ∈ results, result.Fine
  speed : ∃ speed, run.testsPerSecond = .ok speed

/-- The status that a run asks for tells whether every case passed or was skipped. -/
theorem SumsUp.status (h : SumsUp run results) :
    (∀ result ∈ results, result.Fine) ∧ run.exitCode = 0 ∨
      (∃ result ∈ results, ¬result.Fine) ∧ run.exitCode = 1 := by
  unfold RunReport.exitCode
  by_cases hfine : ∀ result ∈ results, result.Fine
  · exact .inl ⟨hfine, if_pos (h.success.mpr hfine)⟩
  · refine .inr ⟨?_, if_neg fun hsuccess => hfine (h.success.mp hsuccess)⟩
    simpa only [not_forall, exists_prop] using hfine

/-- The report of a run tells its results, and the same of the run as the status. -/
theorem SumsUp.tells {timestamp : Text} {compiler : CompilerInfo} {d : Document} (h : SumsUp run results)
    (hextra : ∀ entry ∈ extra, entry.1 ≠ "results")
    (hd : Report.document timestamp ⟨some compiler, some run, [], extra⟩ = .ok d) :
    Report.Tells d results (run.exitCode == 0) := by
  have hstatus : (run.exitCode == 0) = run.success := by
    unfold RunReport.exitCode
    cases run.success <;> rfl
  rw [hstatus, ← h.cases]
  exact Report.tells_of_document (h.cases ▸ h.counters) (h.cases ▸ h.total) hextra hd

/-- The report of results sums them up if it has a speed, however long the run took. -/
theorem sumsUp_of_speed {duration speed : Float}
    (h : ({ RunReport.ofResults results with totalDurationMs := duration } : RunReport).testsPerSecond =
      .ok speed) :
    SumsUp { RunReport.ofResults results with totalDurationMs := duration } results where
  cases := RunReport.cases_ofResults results
  counters := RunReport.counters_ofResults results
  total := RunReport.total_ofResults results
  success := RunReport.success_ofResults_iff results
  speed := ⟨speed, h⟩

/-- The run of all cases has ended with some results: they are emitted behind what is shown of them. -/
theorem runOn_runWhole_of_ok (verbose : Bool) (hs : c.session.Readable)
    (hlength : p.suite.cases.length ≤ largestLength)
    (h : (p.runner.runCases c.host.tree p.suite.cases).runOn c.session = (.ok results, s')) :
    ∃ run ds, SumsUp run results ∧ (p.runner.observed = false → p.reporting.json = true → ds = []) ∧
      (runWhole verbose p.runner p.suite o.stats p.reporting).runOn c =
        (emitReport p.reporting run
            (if o.stats then [("chapters", statisticsDocument p.suite.chapterStatistics)] else []) >>= fun _ =>
          ended run).runOn ({ c with session := s' }.showing ds) := by
  obtain ⟨start, finish, hall⟩ := Runner.runOn_runAll hs h
  have hresults : results.length ≤ largestLength := (Runner.forall₂_isResultOf h).length_eq ▸ hlength
  generalize hrun : ({ RunReport.ofResults results with
    totalDurationMs := Runner.milliseconds start finish } : RunReport) = run at hall
  have htotal : run.total = results.length := by
    rw [← hrun]
    exact RunReport.total_ofResults results
  obtain ⟨speed, hspeed⟩ := RunReport.exists_testsPerSecond_eq_ok (r := run) (x := finish - start)
    (htotal ▸ le_twoTo_of_le_largestLength hresults) (hrun ▸ rfl)
  have hsums : SumsUp run results := by
    rw [← hrun] at hspeed ⊢
    exact sumsUp_of_speed hspeed
  obtain ⟨shown, hshown⟩ := Terminal.exists_runReport_eq_ok (htotal ▸ hresults) hspeed
  obtain ⟨statistics, hstatistics⟩ := Terminal.exists_chapterStatistics_eq_ok hlength
  have hfinished (hobserved : p.runner.observed = false) :=
    finishedDisplays_eq_nil verbose hobserved h
  refine ⟨run, Step.finishedDisplays verbose c.session.trace.length s' ++
    if p.reporting.json then [] else (if o.stats then [statistics] else []) ++ shown, hsums, ?_, ?_⟩
  · intro hobserved hjson
    rw [hfinished hobserved, if_pos hjson, List.nil_append]
  · unfold runWhole
    rw [Step.runOn_bind_ok (Step.runOn_host c), Step.runOn_bind_ok (Step.runOn_watched _ _ _), hall]
    dsimp only
    rw [← Console.showing_showing]
    cases p.reporting.json with
    | true => rfl
    | false =>
        cases o.stats with
        | true =>
            rw [hshown, hstatistics]
            exact (Step.runOn_bind_ok (Step.runOn_displays shown _)).trans
              (congrArg (Step.runOn _) (Console.showing_showing _ [statistics] shown))
        | false =>
            rw [hshown]
            exact Step.runOn_bind_ok (Step.runOn_displays shown _)

/-- The cases of a run have ended with some results: a report that sums them up is emitted behind what is shown
of them. -/
theorem runOn_worked_of_ok (verbose : Bool) (hs : c.session.Readable)
    (hlength : p.suite.cases.length ≤ largestLength)
    (h : (p.runner.runCases c.host.tree (p.executed o)).runOn c.session = (.ok results, s')) :
    ∃ run ds, SumsUp run results ∧ (p.runner.observed = false → p.reporting.json = true → ds = []) ∧
      (worked verbose o p).runOn c =
        (emitReport p.reporting run (p.additions o) >>= fun _ => ended run).runOn
          ({ c with session := s' }.showing ds) := by
  unfold Prepared.executed at h
  unfold worked Prepared.additions
  cases htag : o.tag with
  | none =>
      rw [htag] at h
      exact runOn_runWhole_of_ok verbose hs hlength h
  | some tag =>
      rw [htag] at h
      have htagged : (p.runner.runByTag c.host.tree p.suite tag).runOn c.session =
          (.ok (.ofResults tag results), s') := by
        rw [Runner.runByTag_eq]
        exact Act.runOn_bind_ok h
      obtain ⟨ds, hds, hworked⟩ := runOn_runTagged_of_ok (r := p.reporting) verbose htagged
      have hspeed := RunReport.testsPerSecond_of_zero (RunReport.totalDurationMs_ofResults results)
      exact ⟨.ofResults results, ds, sumsUp_of_speed hspeed, hds, hworked⟩

/-- A prepared run whose cases have ended with some results: the report that sums them up is printed and kept,
as far as that is asked for, and the command ends with the status that the report asks for. -/
theorem runOn_runPrepared_of_ok (verbose : Bool) (hs : c.session.Readable)
    (hlength : p.suite.cases.length ≤ largestLength)
    (h : (p.runner.runCases c.host.tree (p.executed o)).runOn c.session = (.ok results, s'))
    (hwritable : p.reporting.Emits → ∀ run d, run.cases = results →
      Report.document p.reporting.timestamp ⟨some p.reporting.compiler, some run, [], p.additions o⟩ = .ok d →
        (Json.render .readable d).Writable)
    (hkept : p.reporting.Kept c.host.tree) :
    ∃ run d c', SumsUp run results ∧
      Report.document p.reporting.timestamp ⟨some p.reporting.compiler, some run, [], p.additions o⟩ = .ok d ∧
      (runPrepared verbose o p).runOn c = (endingFor run.exitCode, c') ∧
      (p.runner.observed = false → p.reporting.json = true → c'.shown = c.shown) ∧
      c'.printed = c.printed ++ p.reporting.printed (Json.render .readable d) ∧
      c'.host.tree = p.reporting.files c.host.tree (Json.render .readable d) := by
  obtain ⟨run, ds, hsums, hds, hworked⟩ := runOn_worked_of_ok verbose hs hlength h
  obtain ⟨speed, hspeed⟩ := hsums.speed
  obtain ⟨d, hdocument, htext⟩ : ∃ d, Report.document p.reporting.timestamp
      ⟨some p.reporting.compiler, some run, [], p.additions o⟩ = .ok d ∧ _ := Report.exists_text_eq_ok hspeed
  obtain ⟨c', hemit, hshown, hprinted, hfiles⟩ := runOn_emitReport (c := { c with session := s' }.showing ds)
    htext (fun hemits => hwritable hemits run d hsums.cases hdocument) hkept
  rw [Step.runOn_bind_ok hemit] at hworked
  refine ⟨run, d, c', hsums, hdocument, runOn_runPrepared_of_ended hworked, fun hobserved hjson => ?_,
    hprinted, hfiles⟩
  rw [hshown, hds hobserved hjson]
  rfl

/-! ## Command lines -/

/-- A command line for a run that has been set up: its cases are loaded, and are run next. -/
structure SetUp (s : Setting) (h : Host) (arguments : List Text) where
  verbose : Bool
  backend : Option Text
  options : RunOptions
  prepared : Prepared
  console : Console
  read : Front.read h.tree arguments = .command verbose (.ok (.run backend options))
  ready : (Step.report (Telemetry.activateFromEnvironment h.environment h.reporting) >>= fun _ =>
    prepareRun s backend options).runOn (.start h) = (.ok prepared, console)

namespace SetUp

variable {s : Setting} {h : Host} {arguments : List Text}

/-- The run that a command line sets up, if it gets as far. -/
def of? (s : Setting) (h : Host) (arguments : List Text) : Option (SetUp s h arguments) :=
  match hread : Front.read h.tree arguments with
  | .command verbose (.ok (.run backend options)) =>
    match hready : (Step.report (Telemetry.activateFromEnvironment h.environment h.reporting) >>= fun _ =>
        prepareRun s backend options).runOn (.start h) with
    | (.ok prepared, console) => some ⟨verbose, backend, options, prepared, console, hread, hready⟩
    | (.error _, _) => none
  | _ => none

/-- The cases that are run. -/
def cases (u : SetUp s h arguments) : List TestCase :=
  u.prepared.executed u.options

/-- How the cases end. -/
def ran (u : SetUp s h arguments) : Except Failure (List CaseResult) × Session :=
  (u.prepared.runner.runCases h.tree u.cases).runOn u.console.session

/-- Setting a run up prints nothing and changes no file. -/
theorem fits (u : SetUp s h arguments) : u.prepared.Fits (.start h) u.console := by
  obtain ⟨⟨⟩, c, hreport, hprepare⟩ := Step.runOn_bind_eq_ok_iff.mp u.ready
  have hseen := Step.Unseen.report _ _ _ _ hreport
  have hfits := fits_of_prepareRun hprepare
  exact ⟨hfits.tree.trans hseen.tree, hfits.printed.trans hseen.printed,
    fun hjson => (hfits.shown hjson).trans hseen.shown, hfits.observed, hseen.tree ▸ hfits.read⟩

/-- What a command line does once it is set up. -/
theorem runOn_interpret (u : SetUp s h arguments) :
    (interpret s arguments).runOn (.start h) =
      (runPrepared u.verbose u.options u.prepared).runOn u.console := by
  obtain ⟨⟨⟩, c, hreport, hprepare⟩ := Step.runOn_bind_eq_ok_iff.mp u.ready
  unfold interpret
  rw [Step.runOn_bind_ok (Step.runOn_host _), show (Console.start h).host.tree = h.tree from rfl, u.read]
  dsimp only [perform]
  rw [Step.runOn_bind_ok (Step.runOn_host _)]
  exact (Step.runOn_bind_ok hreport).trans (Step.runOn_bind_ok hprepare)

/-- Every case that is run was read from a fixture. -/
theorem exists_load (u : SetUp s h arguments) {case : TestCase} (hcase : case ∈ u.cases) :
    ∃ path, TestCase.load h.tree path u.prepared.runner.limit = .ok case :=
  u.fits.read case ((u.prepared.executed_sublist u.options).subset hcase)

/-- Nothing keeps the run of the cases from ending: the time can be read, no compiler fails in a way that no
case may end with, or cannot be adapted, and there are no more cases than a list can hold. -/
structure Undisturbed (u : SetUp s h arguments) : Prop where
  readable : u.console.session.Readable
  calm : ∀ f s', u.ran = (.error f, s') → ¬f.EndsRun ∧ s'.Readable
  length : u.prepared.suite.cases.length ≤ largestLength

/-- If nothing keeps them from it, all cases are run. -/
theorem Undisturbed.exists_ran {u : SetUp s h arguments} (hu : u.Undisturbed) :
    ∃ results s', u.ran = (.ok results, s') ∧ List.Forall₂ Runner.IsResultOf u.cases results := by
  refine Runner.exists_runOn_runCases (fun case hcase => ?_) hu.calm
  obtain ⟨path, hload⟩ := u.exists_load hcase
  exact (TestCase.of_load hload).2

/-- All texts that are told in the report can be written. -/
structure Writable (u : SetUp s h arguments) : Prop where
  timestamp : u.prepared.reporting.timestamp.Writable
  compiler : Report.WritableInfo u.prepared.reporting.compiler
  tag : ∀ tag, u.options.tag = some tag → tag.Writable
  paths : ∀ case ∈ u.prepared.suite.cases, case.filePath.toText.Writable
  messages : ∀ results s', u.ran = (.ok results, s') → ∀ result ∈ results, result.message.Writable

/-- The report of a run can be written if all its texts can be. -/
theorem Writable.render {u : SetUp s h arguments} {d : Document} (hu : u.Writable)
    (hran : u.ran = (.ok results, s')) (hcases : run.cases = results)
    (hd : Report.document u.prepared.reporting.timestamp
      ⟨some u.prepared.reporting.compiler, some run, [], u.prepared.additions u.options⟩ = .ok d) :
    (Json.render .readable d).Writable := by
  refine Json.writable_render _ (Report.writable_of_document hu.timestamp hu.compiler
    (fun result hresult => ?_) (Prepared.writable_additions hu.tag hu.paths) hd)
  rw [hcases] at hresult
  obtain ⟨case, hcase, hname, hpath⟩ := Runner.exists_of_mem_results hran hresult
  obtain ⟨path, hload⟩ := u.exists_load hcase
  have hwritable := hu.paths case ((u.prepared.executed_sublist u.options).subset hcase)
  refine ⟨?_, hu.messages results s' hran result hresult, ?_⟩
  · rw [hname, (TestCase.of_load hload).1]
    exact Path.writable_stem hwritable
  · rw [hpath]
    exact hwritable

/-- How a command line ends whose command ends with a status. -/
theorem execute_eq {arguments : List Text} {status : Nat}
    (hrun : (interpret s arguments).runOn (.start h) = (endingFor status, c)) :
    execute s h arguments =
      (⟨status, c.shown.reverse, c.printed, c.written, c.session, c.started, none⟩, c.left) := by
  have hinterpret : ((interpret s arguments).run).run (.start h) = (endingFor status, c) := hrun
  unfold execute
  rw [hinterpret]
  dsimp only
  rw [conclude_endingFor]

end SetUp

/-- A run with some results is reported: no failure is left, the status tells whether every case passed or was
skipped, and the report tells the results and the same of the run.  Nothing but the report is printed, or shown
where the report is printed; and the report is kept in the file that it is for, whatever the status. -/
structure Reporting.Delivers (r : Reporting) (h : Host) (results : List CaseResult) (d : Document)
    (ending : Ending × Host) : Prop where
  failure : ending.1.failure = none
  status : (∀ result ∈ results, result.Fine) ∧ ending.1.status = 0 ∨
    (∃ result ∈ results, ¬result.Fine) ∧ ending.1.status = 1
  tells : Report.Tells d results (ending.1.status == 0)
  printed : ending.1.printed = r.printed (Json.render .readable d)
  shown : r.json = true → ending.1.shown = []
  kept : ∀ file, r.file = some file →
    Report.write h.tree (Path.ofText file) (Json.render .readable d) = (ending.2.tree, .ok ())
  holds : ∀ file, r.file = some file → h.tree.LeadsDown (Path.ofText file) →
    ending.2.tree.Holds (Path.ofText file) (Json.render .readable d)
  tree : r.file = none → ending.2.tree = h.tree

/-- A setting with compilers that take everything. -/
def wakingSetting : Setting where
  points := []
  surroundings _ _ := ⟨fun _ => false, fun _ _ _ _ => (.error (.host "no tool"), [], 0)⟩
  substitute := some Runner.wakingFactory
  timestamp := ""

/-- A host with a fixture that is not to be taken. -/
def rejectedHost : Host where
  tree :=
    { top := .directory [("sv-tests", .directory [("tests", .directory [("generic", .directory
        [("a.sv", .plain "/* :name: a\n:should_fail_because: it is wrong\n*/".toUTF8)])])])]
      current := [] }
  environment := []
  clock := 0
  reporting := false
  table := none

/-- A command line that prints the report and keeps it in a file. -/
def rejectedArguments : List Text :=
  ["run", "--json-output", "--report-file", "report.json"]

/-- The run that this command line sets up. -/
def rejectedSetUp : SetUp wakingSetting rejectedHost rejectedArguments :=
  (SetUp.of? wakingSetting rejectedHost rejectedArguments).get (by decide +kernel)

/-- What the run of this command line is about, as far as it matters for its report. -/
theorem rejectedSetUp_facts :
    (Decimal.ofInt? rejectedSetUp.console.session.clock).isSome = true ∧
      rejectedSetUp.options.tag = none ∧
      rejectedSetUp.prepared.suite.cases.map (·.filePath.toText) = ["sv-tests/tests/generic/a.sv"] ∧
      rejectedSetUp.prepared.reporting.timestamp = "" ∧
      rejectedSetUp.prepared.reporting.compiler = .assumed "Waking" ∧
      rejectedSetUp.prepared.reporting.file = some "report.json" ∧
      rejectedSetUp.ran.1.toOption.map (·.map (·.message)) =
        some [("Test a should have failed but passed" : Text)] := by
  decide +kernel

/-- A file beside the fixtures can be written. -/
theorem rejectedHost_kept {text : Text} (htext : text.Writable) :
    (Report.write rejectedHost.tree (Path.ofText "report.json") text).2 = .ok () := by
  have hencode : Text.encode text = .ok (Text.nameBytes text) := by
    unfold Text.encode
    rw [Text.writable_iff.mp htext]
  unfold Report.write Report.writeFile FileTree.writeText
  rw [hencode]
  rfl

end Conformance.CommandLine
