import Conformance.Proofs.CommandLine.Run
import Conformance.Proofs.Fixture.Suite
import Conformance.Proofs.Run.Notes

/-!
# Runs of a chapter

A chapter is run on the fixtures that lie in its directory now.  Whatever a suite held before is dropped, so the run is
the one of a suite that was made for the chapter; and the command line, which reduces its suite before it runs all cases,
does the same.

Main results:

- `Suite.reload_changed`: reducing a suite to a directory forgets all that was done to it.
- `Runner.runByChapter_eq`: a chapter is run as it is by a new suite.
- `runOn_runWhole_chapter`: the command for a chapter runs what its runner runs for the chapter.
- `runByChapter_contract`: all of it, with what is run of a chapter without a directory.
-/

namespace Conformance

/-! ## Histories of suites -/

namespace Suite

/-- What is done to a suite. -/
inductive Change
  | load (tree : FileTree) (directory : Path)
  | loadCatalog (tree : FileTree) (root : Path) (chapters : List Text) (generic : Option Text)
  | reload (tree : FileTree) (directory : Path)
  | add (c : TestCase)
  | clear

/-- A suite behind a change, however that ended. -/
def change (s : Suite) : Change → Suite
  | .load tree directory => (s.loadDirectory tree directory).suite
  | .loadCatalog tree root chapters generic => (s.loadCatalog tree root chapters generic).suite
  | .reload tree directory => (s.reload tree directory).suite
  | .add c => s.add c
  | .clear => s.clear

/-- A suite behind changes, one after another. -/
def changed (s : Suite) (changes : List Change) : Suite :=
  changes.foldl change s

variable {s s' : Suite} {extensions : List Text} {limit : Int} {changes : List Change}

/-- Suites without cases differ in what makes a fixture only. -/
theorem clear_eq_clear (hextensions : s.extensions = s'.extensions) (hlimit : s.limit = s'.limit) :
    s.clear = s'.clear := by
  unfold clear
  rw [hextensions, hlimit]

/-- No change touches what makes a fixture. -/
theorem clear_change (s : Suite) (change : Change) : (s.change change).clear = s.clear := by
  cases change <;> rfl

theorem clear_changed (s : Suite) (changes : List Change) : (s.changed changes).clear = s.clear := by
  induction changes generalizing s with
  | nil => rfl
  | cons change rest ih => exact (ih (s.change change)).trans (clear_change s change)

/-- Reducing a suite to a directory forgets all that was done to it. -/
theorem reload_changed (changes : List Change) (tree : FileTree) (directory : Path) :
    ((create extensions limit).changed changes).reload tree directory =
      (create extensions limit).loadDirectory tree directory := by
  unfold reload
  rw [clear_changed]
  rfl

end Suite

/-! ## Runs -/

namespace Runner

variable {r : Runner} {tree : FileTree} {s : Session}

/-- Load the fixtures below a directory into a suite and run all its cases.  The suite is given back with the
report. -/
def runDirectory (r : Runner) (tree : FileTree) (suite : Suite) (directory : Path) : Suite × Act RunReport :=
  let loaded := suite.loadDirectory tree directory
  (loaded.suite, do
    Act.notes loaded.log
    let _ ← Act.ofExcept loaded.count
    r.runAll tree loaded.suite)

/-- A chapter is run on what lies in its directory, whatever the suite held. -/
theorem runByChapter_eq_runDirectory {root : Path} (hroot : r.fixturesRoot = some root) (tree : FileTree)
    (suite : Suite) (chapter : Text) :
    r.runByChapter tree suite chapter = r.runDirectory tree suite.clear (chapterDirectory root chapter) := by
  unfold runByChapter
  rw [hroot]
  rfl

/-- A chapter is run as it is by a new suite. -/
theorem runByChapter_eq {root : Path} (hroot : r.fixturesRoot = some root) (tree : FileTree)
    (extensions : List Text) (limit : Int) (changes : List Suite.Change) (chapter : Text) :
    r.runByChapter tree ((Suite.create extensions limit).changed changes) chapter =
      r.runDirectory tree (Suite.create extensions limit) (chapterDirectory root chapter) := by
  rw [runByChapter_eq_runDirectory hroot, Suite.clear_changed]
  rfl

/-- The report of a run says that there was nothing to run. -/
structure Blank (report : RunReport) : Prop where
  cases : report.cases = []
  total : report.total = 0
  success : report.success = true

theorem exists_runOn_runAll_of_nil {suite : Suite} (hs : s.Readable) (h : suite.cases = []) :
    ∃ report, (r.runAll tree suite).runOn s = (.ok report, s) ∧ Blank report := by
  have hrun : (r.runCases tree suite.cases).runOn s = (.ok [], s) := by
    rw [h]
    rfl
  obtain ⟨start, finish, hall⟩ := runOn_runAll hs hrun
  refine ⟨_, hall, RunReport.cases_ofResults [], RunReport.total_ofResults [], ?_⟩
  exact (RunReport.success_ofResults_iff []).mpr fun _ hmem => nomatch hmem

/-- A directory that is not there leaves a new suite as it was, and is run with nothing but a warning. -/
theorem runDirectory_of_missing {directory : Path} (hdirectory : tree.hasDirectory directory = .ok false)
    (r : Runner) (extensions : List Text) (limit : Int) :
    let fresh := Suite.create extensions limit
    (r.runDirectory tree fresh directory).1 = fresh ∧
      ∀ s : Session, s.Readable →
        ∃ report, (r.runDirectory tree fresh directory).2.runOn s =
            (.ok report, s.noted [.warning ("Fixture directory " ++ directory.toText ++ " does not exist")]) ∧
          Blank report := by
  intro fresh
  unfold runDirectory
  dsimp only
  rw [Suite.loadDirectory_of_missing fresh hdirectory]
  refine ⟨rfl, fun s hs => ?_⟩
  exact exists_runOn_runAll_of_nil (s := s.noted _) hs rfl

end Runner

/-! ## The command -/

namespace CommandLine

open Step

variable {s : Setting} {backend : Option Text} {o : RunOptions} {p : Prepared} {before c : Console} {chapter : Text}

/-- What the command does with a run that has ended: it reports the run, or hands over its failure. -/
def reportWhole (suite : Suite) (stats : Bool) (r : Reporting) : Except Failure RunReport → Step (Except Failure Unit)
  | .error f => pure (.error f)
  | .ok report => do
    let statistics := suite.chapterStatistics
    if !r.json then
      if stats then
        let counts := statistics.map fun (id, n) => (id, (n : Int))
        Step.display (← Step.ofExcept (Terminal.chapterStatistics counts))
      Step.displays (← Step.ofExcept (Terminal.runReport report))
    emitReport r report (if stats then [("chapters", statisticsDocument statistics)] else [])
    if report.success then pure (.ok ()) else throw (.exit report.exitCode)

/-- The command runs all cases and reports that. -/
theorem runOn_runWhole (verbose : Bool) (runner : Runner) (suite : Suite) (stats : Bool) (r : Reporting) (c : Console) :
    (runWhole verbose runner suite stats r).runOn c =
      (watched verbose (runner.runAll c.host.tree suite) >>= reportWhole suite stats r).runOn c := by
  unfold runWhole
  rw [runOn_bind_ok (runOn_host c), runOn_bind_ok (runOn_watched _ _ _), runOn_bind_ok (runOn_watched _ _ _)]
  rcases (runner.runAll c.host.tree suite).runOn c.session with ⟨f | report, s'⟩
  · rfl
  · rfl

/-- An action that a usable backend carries out leaves its session, and nothing else has changed. -/
theorem runOn_of_withBackend {α : Type} {action : Act α} {value : α} {name : Text} {c' : Console}
    (h : (withBackend name action).runOn c = (.ok value, c')) :
    action.runOn c.session = (.ok value, c'.session) ∧ c'.host = c.host := by
  unfold withBackend at h
  rw [runOn_bind_ok (runOn_attempt action c)] at h
  rcases hrun : action.runOn c.session with ⟨f | value', s'⟩
  · rw [hrun] at h
    dsimp only at h
    split at h
    · cases h
    · cases h
  · rw [hrun] at h
    cases h
    exact ⟨rfl, rfl⟩

/-- Reducing any suite to a chapter leaves the suite that the command loads for the chapter, if that ends well. -/
theorem runByChapter_of_loadSuite {config : Config} {tree : FileTree} {root : Path} {count : Nat} {runner : Runner}
    {suite : Suite} (hroot : runner.fixturesRoot = some root)
    (hcount : (loadSuite config tree root (some chapter)).count = .ok count)
    (hsuite : suite.clear = (loadSuite config tree root (some chapter)).suite.clear) :
    runner.runByChapter tree suite chapter = ((loadSuite config tree root (some chapter)).suite, do
      Act.notes (loadSuite config tree root (some chapter)).log
      runner.runAll tree (loadSuite config tree root (some chapter)).suite) := by
  rw [Runner.runByChapter_eq_runDirectory hroot, hsuite]
  change (_, do
    Act.notes _
    let _ ← Act.ofExcept (loadSuite config tree root (some chapter)).count
    _) = _
  rw [hcount]
  rfl

/-- A run that has been prepared for a chapter: its compilers were checked, its suite was reduced, and what was noted
at that is noted on top of the check.  Reducing any suite with the same fixtures would have left the same suite. -/
theorem exists_of_prepareRun_chapter (hchapter : o.chapter = some chapter)
    (h : (prepareRun s backend o).runOn before = (.ok p, c)) :
    ∃ checked compiler made log,
      (Runner.probe p.runner.factory).runOn checked = (.ok compiler, made) ∧ c.session = made.noted log ∧
      ∀ suite : Suite, suite.clear = p.suite.clear →
        p.runner.runByChapter c.host.tree suite chapter = (p.suite, do
          Act.notes log
          p.runner.runAll c.host.tree p.suite) := by
  obtain ⟨config, root, checked, found, tried, noted, hsteps⟩ := exists_steps_of_prepareRun h
  obtain ⟨hprobe, -⟩ := runOn_of_withBackend hsteps.trial
  obtain ⟨count, hcount⟩ := hsteps.count
  have hsuite := hsteps.suite
  have hnotes := hsteps.notes
  rw [hchapter] at hcount hsuite hnotes
  have hbehind : c.host = tried.host ∧ c.session = tried.session.noted
      (loadSuite config tried.host.tree root (some chapter)).log := by
    cases hnotes
    rw [hsteps.heading]
    split
    · exact ⟨rfl, rfl⟩
    · exact ⟨rfl, rfl⟩
  refine ⟨_, _, _, _, hprobe, hbehind.2, fun suite hclear => ?_⟩
  rw [hsuite] at hclear ⊢
  rw [hbehind.1]
  exact runByChapter_of_loadSuite hsteps.root hcount hclear

/-- The command for a chapter runs what its runner runs for the chapter in the session behind the check of its
compilers, whatever the suite held that is reduced then; and it reports that run. -/
theorem runOn_runWhole_chapter (verbose : Bool) (hchapter : o.chapter = some chapter)
    (h : (prepareRun s backend o).runOn before = (.ok p, c)) :
    ∃ checked compiler made, (Runner.probe p.runner.factory).runOn checked = (.ok compiler, made) ∧
      ∀ suite : Suite, suite.clear = p.suite.clear →
        let ran := p.runner.runByChapter c.host.tree suite chapter
        ran.1 = p.suite ∧
        ran.2.runOn made = (p.runner.runAll c.host.tree p.suite).runOn c.session ∧
        (runWhole verbose p.runner p.suite o.stats p.reporting).runOn c =
          (watched verbose ran.2 >>= reportWhole ran.1 o.stats p.reporting).runOn { c with session := made } := by
  obtain ⟨checked, compiler, made, log, hprobe, hsession, hruns⟩ := exists_of_prepareRun_chapter hchapter h
  refine ⟨checked, compiler, made, hprobe, fun suite hsuite => ?_⟩
  intro ran
  have hran : ran = (p.suite, do
      Act.notes log
      p.runner.runAll c.host.tree p.suite) := hruns suite hsuite
  have hrun : ran.2.runOn made = (p.runner.runAll c.host.tree p.suite).runOn c.session := by
    rw [hran, hsession]
    rfl
  refine ⟨congrArg Prod.fst hran, hrun, ?_⟩
  have hwatched : (watched verbose (p.runner.runAll c.host.tree p.suite)).runOn c =
      (watched verbose ran.2).runOn { c with session := made } := by
    rw [runOn_watched, runOn_watched, hrun]
    unfold watchedConsole
    rw [hsession]
    rfl
  have hsuite : ran.1 = p.suite := congrArg Prod.fst hran
  rw [runOn_runWhole, runOn_bind, runOn_bind, hwatched, hsuite]

/-! ## The contract -/

/-- A run of a chapter does not depend on what was done to its suite.

It leaves the suite, and ends on every session, as a new suite does that loads the directory of the chapter and runs
all its cases; if there is no such directory, that is a new suite and a report of nothing.  Without a directory of
fixtures it fails, and nothing has changed.  The command for a chapter runs the same and reports it. -/
theorem runByChapter_contract (r : Runner) (tree : FileTree) (extensions : List Text) (limit : Int)
    (changes : List Suite.Change) (chapter : Text) :
    let fresh := Suite.create extensions limit
    let suite := fresh.changed changes
    let ran := r.runByChapter tree suite chapter
    (∀ root, r.fixturesRoot = some root →
      let directory := chapterDirectory root chapter
      ran = r.runDirectory tree fresh directory ∧
      (tree.hasDirectory directory = .ok false → ran.1 = fresh ∧ ∀ s : Session, s.Readable →
        ∃ report, ran.2.runOn s =
            (.ok report, s.noted [.warning ("Fixture directory " ++ directory.toText ++ " does not exist")]) ∧
          Runner.Blank report)) ∧
    (r.fixturesRoot = none → ran.1 = suite ∧
      ∀ s, ran.2.runOn s = (.error (.badValue "run_by_chapter requires fixtures_root"), s)) ∧
    ∀ setting backend o p before c verbose, o.chapter = some chapter →
      (prepareRun setting backend o).runOn before = (.ok p, c) →
      p.suite.extensions = fresh.extensions → p.suite.limit = limit →
        ∃ checked compiler made, (Runner.probe p.runner.factory).runOn checked = (.ok compiler, made) ∧
          let ran := p.runner.runByChapter c.host.tree suite chapter
          ran.1 = p.suite ∧
          ran.2.runOn made = (p.runner.runAll c.host.tree p.suite).runOn c.session ∧
          (runWhole verbose p.runner p.suite o.stats p.reporting).runOn c =
            (watched verbose ran.2 >>= reportWhole ran.1 o.stats p.reporting).runOn { c with session := made } := by
  intro fresh suite ran
  refine ⟨fun root hroot => ?_, fun hroot => ?_, ?_⟩
  · have hran : ran = r.runDirectory tree fresh (chapterDirectory root chapter) :=
      Runner.runByChapter_eq hroot tree extensions limit changes chapter
    refine ⟨hran, fun hmissing => ?_⟩
    rw [hran]
    exact Runner.runDirectory_of_missing hmissing r extensions limit
  · have hran : ran = (suite, throw (.badValue "run_by_chapter requires fixtures_root")) := by
      change Runner.runByChapter r tree suite chapter = _
      unfold Runner.runByChapter
      rw [hroot]
    rw [hran]
    exact ⟨rfl, fun s => rfl⟩
  · intro setting backend o p before c verbose hchapter hprepare hextensions hlimit
    obtain ⟨checked, compiler, made, hprobe, hruns⟩ := runOn_runWhole_chapter verbose hchapter hprepare
    have hsuite : suite.clear = p.suite.clear :=
      (Suite.clear_changed fresh changes).trans (Suite.clear_eq_clear hextensions.symm hlimit.symm)
    exact ⟨checked, compiler, made, hprobe, hruns suite hsuite⟩

/-! ## A suite with a case of another chapter -/

/-- A host with a fixture of one chapter. -/
def chapterHost : Host where
  tree :=
    { top := .directory [("sv-tests", .directory [("tests", .directory [("chapter-5", .directory
        [("a.sv", .plain "module m; endmodule".toUTF8)])])])]
      current := [] }
  environment := []
  clock := 0
  reporting := false
  table := none

/-- The options of a command for this chapter. -/
def chapterOptions : RunOptions where
  path := none
  root := none
  tag := none
  chapter := some "5"
  stats := false
  json := true
  reportFile := none

/-- What was done to a suite that holds a case of no chapter. -/
def staleChanges : List Suite.Change :=
  [.add (.ofText ⟨.current, ["stale.sv"]⟩ ""), .load chapterHost.tree ⟨.current, ["sv-tests"]⟩]

/-- A runner for the fixtures of the host. -/
def chapterRunner : Runner :=
  { Runner.wakingRunner with fixturesRoot := some ⟨.current, ["sv-tests", "tests"]⟩ }

/-- The command for the chapter is prepared, with the one case of the chapter. -/
theorem prepareRun_chapterHost :
    ((prepareRun wakingSetting none chapterOptions).runOn (.start chapterHost)).1.toOption.map (fun p =>
        (p.suite.extensions, p.suite.limit, p.suite.cases.map (·.name))) =
      some (([".sv"] : List Text), Fixture.defaultLimit, (["a"] : List Text)) := by
  decide +kernel

theorem runByChapter_contract_stale :
    let suite := (Suite.create [".sv"] Fixture.defaultLimit).changed staleChanges
    (∃ report s, (chapterRunner.runByChapter chapterHost.tree suite "6").2.runOn (.start 0) = (.ok report, s) ∧
        Runner.Blank report) ∧
      ∃ p c made, (prepareRun wakingSetting none chapterOptions).runOn (.start chapterHost) = (.ok p, c) ∧
        p.suite.cases.map (·.name) = ["a"] ∧
        (p.runner.runByChapter c.host.tree suite "5").2.runOn made =
          (p.runner.runAll c.host.tree p.suite).runOn c.session := by
  intro suite
  have hfacts := prepareRun_chapterHost
  constructor
  · obtain ⟨hroot, -, -⟩ := runByChapter_contract chapterRunner chapterHost.tree [".sv"] Fixture.defaultLimit
      staleChanges "6"
    obtain ⟨-, hmissing⟩ := hroot _ rfl
    obtain ⟨-, hruns⟩ := hmissing (by decide +kernel)
    obtain ⟨report, hrun, hblank⟩ := hruns (.start 0) ⟨_, rfl⟩
    exact ⟨report, _, hrun, hblank⟩
  · rcases hprepare : (prepareRun wakingSetting none chapterOptions).runOn (.start chapterHost) with ⟨stop | p, c⟩
    · rw [hprepare] at hfacts
      cases hfacts
    · rw [hprepare] at hfacts
      have hp := Option.some.inj hfacts
      obtain ⟨hextensions, hlimit, hnames⟩ : p.suite.extensions = [".sv"] ∧ p.suite.limit = Fixture.defaultLimit ∧
          p.suite.cases.map (·.name) = ["a"] := by simpa using hp
      obtain ⟨-, -, hcommand⟩ := runByChapter_contract chapterRunner chapterHost.tree [".sv"] Fixture.defaultLimit
        staleChanges "5"
      obtain ⟨checked, compiler, made, -, -, hran, -⟩ :=
        hcommand wakingSetting none chapterOptions p (.start chapterHost) c false rfl hprepare hextensions hlimit
      exact ⟨p, c, made, rfl, hnames, hran⟩

end CommandLine

end Conformance
