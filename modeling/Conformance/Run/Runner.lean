import Conformance.Compile.Adapter
import Conformance.Fixture.Suite
import Conformance.Run.Report

/-!
# Running cases

Every case gets a compiler of its own, which is shut down before the next case starts.  The run of a case
ends in an outcome whatever the compiler does; only a compiler that cannot be adapted, and a request to
stop, end the whole run.
-/

namespace Conformance

/-- How cases are run: where compilers come from, which cases are skipped, and how large a fixture may
be. -/
structure Runner where
  factory : Factory
  skipTags : List Text
  limit : Int
  fixturesRoot : Option Path
  /-- Whether an observer is told of every finished case. -/
  observed : Bool

namespace Runner

/-! ## One case -/

/-- Shut a compiler down; a failure to do so is only noted. -/
def release (a : Adapter) (label : Text) : Act Unit := do
  match ← a.shutdown.attempt with
  | .ok () => pure ()
  | .error f =>
    if f.isOrdinary then
      Act.note (.warning ("Compiler shutdown failed after " ++ label ++ ": " ++ f.message))
    else throw f

/-- Do some work with a compiler and shut it down, whatever the work ends with. -/
def releasing {α : Type} (a : Adapter) (label : Text) (work : Act α) : Act α := do
  let ending ← work.attempt
  release a label
  Act.ofExcept ending

/-- The outcome for a result. -/
def classify (c : TestCase) (r : CompileResult) : Outcome × Text :=
  if r.success then
    if c.shouldFail then (.fail, "Test " ++ c.name ++ " should have failed but passed") else (.pass, "")
  else if c.shouldFail then (.pass, c.reason.getD "")
  else (.fail, ((r.errors.head?).map CompileError.text).getD "compilation failed")

/-- The tags for which a case is skipped, in order. -/
def skippedBy (r : Runner) (c : TestCase) : List Text :=
  ((c.tags.filter r.skipTags.contains).eraseDups).mergeSort fun a b => decide (a ≤ b)

/-- Compile a source with a compiler that is ready, and classify what comes of it. -/
def judge (c : TestCase) (a : Adapter) (source : Text) : Act (Outcome × Text) := do
  match ← (a.compile source).attempt with
  | .ok result => pure (classify c result)
  | .error f =>
    if !f.isOrdinary then throw f
    else if c.shouldFail then pure (.pass, "rejected with " ++ f.summary)
    else
      Act.note (.error ("Compile failed for " ++ c.name ++ ": " ++ f.message))
      pure (.fail, "compile raised " ++ f.summary)

/-- Prepare a compiler, and go on if that succeeds. -/
def prepared (c : TestCase) (a : Adapter) (source : Text) : Act (Outcome × Text) := do
  match ← a.prepare.attempt with
  | .ok () => judge c a source
  | .error f =>
    if !f.isOrdinary then throw f
    else
      Act.note (.error ("Compiler initialization failed for " ++ c.name ++ ": " ++ f.message))
      pure (.errorRuntime, "initialization failed: " ++ f.message)

/-- Run a source through a new compiler. -/
def compiled (r : Runner) (c : TestCase) (source : Text) : Act (Outcome × Text) := do
  match ← (Adapter.create r.factory).attempt with
  | .ok a => releasing a c.name (prepared c a source)
  | .error f =>
    if f.family == .unadaptable || !f.isOrdinary then throw f
    else
      Act.note (.error ("Compiler construction failed for " ++ c.name ++ ": " ++ f.message))
      pure (.errorRuntime, "compiler construction failed: " ++ f.message)

/-- Run a case to its outcome. -/
def execute (r : Runner) (tree : FileTree) (c : TestCase) : Act (Outcome × Text) :=
  let skipped := r.skippedBy c
  if !skipped.isEmpty then pure (.skip, "skipped by tag " ++ Text.intercalate ", " skipped)
  else
    match Fixture.read tree c.filePath r.limit with
    | .ok source => r.compiled c source
    | .error fault => do
      if fault.isUnreadable then
        Act.note (.error ("Failed to read test file " ++ c.filePath.toText ++ ": " ++ fault.message))
        pure (.errorCompile, fault.message)
      else throw fault.failure

/-- The time between two readings of the clock in seconds, in milliseconds. -/
def milliseconds (start finish : Float) : Float :=
  (finish - start) * 1000.0

/-- Run a case. -/
def runCase (r : Runner) (tree : FileTree) (c : TestCase) : Act CaseResult := do
  let start ← Act.seconds
  let (outcome, message) ← r.execute tree c
  let finish ← Act.seconds
  let result : CaseResult :=
    ⟨c.name, outcome, milliseconds start finish, message, c.filePath.toText⟩
  if r.observed then Act.happen (.finished c result)
  pure result

/-! ## Many cases -/

/-- Run cases, one after another. -/
def runCases (r : Runner) (tree : FileTree) : List TestCase → Act (List CaseResult)
  | [] => pure []
  | c :: rest => do
    let result ← r.runCase tree c
    let results ← r.runCases tree rest
    pure (result :: results)

/-- Run all cases of a suite. -/
def runAll (r : Runner) (tree : FileTree) (s : Suite) : Act RunReport := do
  let start ← Act.seconds
  let results ← r.runCases tree s.cases
  let finish ← Act.seconds
  pure { RunReport.ofResults results with totalDurationMs := milliseconds start finish }

/-- Run the cases of a suite that have a tag, given the report so far. -/
def runTagged (r : Runner) (tree : FileTree) (tag : Text) :
    List TestCase → TagReport → Act TagReport
  | [], report => pure report
  | c :: rest, report => do
    if c.hasTag tag then
      let result ← r.runCase tree c
      r.runTagged tree tag rest (report.record result)
    else r.runTagged tree tag rest report

/-- Run the cases of a suite that have a tag. -/
def runByTag (r : Runner) (tree : FileTree) (s : Suite) (tag : Text) : Act TagReport :=
  r.runTagged tree tag s.cases (.empty tag)

/-- Reduce a suite to one chapter and run it.  The suite is given back with the report. -/
def runByChapter (r : Runner) (tree : FileTree) (s : Suite) (chapter : Text) :
    Suite × Act RunReport :=
  match r.fixturesRoot with
  | none => (s, throw (.badValue "run_by_chapter requires fixtures_root"))
  | some root =>
    let loaded := s.reload tree (chapterDirectory root chapter)
    (loaded.suite, do
      Act.notes loaded.log
      let _ ← Act.ofExcept loaded.count
      r.runAll tree loaded.suite)

/-! ## Beginning -/

/-- Check that the compilers can be adapted, and ask one what it says about itself. -/
def probe (factory : Factory) : Act CompilerInfo := do
  let a ← Adapter.create factory
  releasing a "backend check" a.describe

end Runner

end Conformance
