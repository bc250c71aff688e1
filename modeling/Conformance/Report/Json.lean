import Conformance.Compile.Result
import Conformance.Decimal.Notation
import Conformance.Document.Json
import Conformance.Failure
import Conformance.FileTree.Basic
import Conformance.Run.Benchmark
import Conformance.Run.Report

/-!
# Reports as JSON

A report names the tool, its version and the time, and then holds what there is of a compiler, the results
of a run, benchmarks, and further entries.
-/

namespace Conformance.Report

open Decimal

/-- The version of the harness. -/
def version : Text := "0.1.0"

/-- What a report is made of. -/
structure Contents where
  compiler : Option CompilerInfo
  run : Option RunReport
  benchmarks : List (Text × BenchmarkResult)
  /-- Further entries; one with a key that is there already takes the place of the other value. -/
  extra : List (Text × Document)

/-- A report about nothing. -/
def Contents.none : Contents :=
  ⟨.none, .none, [], []⟩

/-- What a compiler says about itself. -/
def compilerDocument (c : CompilerInfo) : Document :=
  .record [
    ("name", .text c.name),
    ("version", .text c.version),
    ("standard_support", .texts (c.standards.map Standard.text)),
    ("features", .texts c.features)]

/-- The result of a case. -/
def caseDocument (r : CaseResult) : Document :=
  .record [
    ("name", .text r.name),
    ("outcome", .text r.outcome.text),
    ("duration_ms", .float r.durationMs),
    ("message", .text r.message),
    ("file_path", .text r.filePath)]

/-- The figures of a run. -/
def summaryEntries (r : RunReport) : Except Failure (List (Text × Document)) := do
  let testsPerSecond ← r.testsPerSecond
  pure [
    ("total", .ofNat r.total),
    ("passed", .ofNat r.passed),
    ("failed", .ofNat r.failed),
    ("skipped", .ofNat r.skipped),
    ("errors", .ofNat r.errors),
    ("pass_rate", .float (roundPlaces 2 r.passRate)),
    ("total_duration_ms", .float r.totalDurationMs),
    ("compile_duration_ms", .float r.compileDurationMs),
    ("average_ms", .float r.averageMs),
    ("tests_per_second", .float testsPerSecond),
    ("success", .bool r.success)]

/-- The results of a run. -/
def runDocument (r : RunReport) : Except Failure Document := do
  let summary ← summaryEntries r
  pure (.record [
    ("summary", .record summary),
    ("test_cases", .list (r.cases.map caseDocument))])

/-- The figures of a benchmark. -/
def benchmarkEntries (r : BenchmarkResult) : Except Failure (List (Text × Document)) := do
  let successRate ← r.successRate
  let linesPerSecond ← r.linesPerSecond
  pure [
    ("total_iterations", .int r.totalIterations),
    ("successful_runs", .int r.successfulRuns),
    ("failed_runs", .int r.failedRuns),
    ("success_rate", .float successRate),
    ("total_time_ns", .int r.totalTimeNs),
    ("average_time_ns", .int r.averageTimeNs),
    ("lines_of_code", .int r.linesOfCode),
    ("lines_per_second", .float linesPerSecond)]

/-- The outcome of each benchmark. -/
def benchmarkDocuments (benchmarks : List (Text × BenchmarkResult)) :
    Except Failure (List (Text × Document)) :=
  benchmarks.mapM fun (label, result) => do
    let figures ← benchmarkEntries result
    pure (label, .record figures)

/-- The entries of a report that was made at the given time, but for further ones. -/
def entries (timestamp : Text) (c : Contents) : Except Failure (List (Text × Document)) := do
  let results ← c.run.mapM runDocument
  let benchmarks ← benchmarkDocuments c.benchmarks
  let named (name : Text) (value : Option Document) : List (Text × Document) :=
    (value.map fun value => (name, value)).toList
  let about : List (Text × Document) :=
    [("tool", .text "svconform"), ("version", .text version), ("timestamp", .text timestamp)]
  pure (about ++ named "compiler" (c.compiler.map compilerDocument) ++ named "results" results ++
    named "benchmarks" (if benchmarks.isEmpty then none else some (.record benchmarks)))

/-- A report as a document. -/
def document (timestamp : Text) (c : Contents) : Except Failure Document := do
  let known := (← entries timestamp c).map fun (name, value) => (Document.text name, value)
  pure (.map (c.extra.foldl (fun entries (name, value) => Document.put name value entries) known))

/-- A report as JSON. -/
def text (timestamp : Text) (c : Contents) : Except Failure Text := do
  pure (Json.render .readable (← document timestamp c))

/-! ## Files -/

/-- Write a report to a file in a directory that is there.  A report that cannot be written leaves an empty
file. -/
def writeFile (tree : FileTree) (path : Path) (report : Text) : FileTree × Except Failure Unit :=
  match path.refusal? with
  | some failure => (tree, .error failure)
  | none => tree.writeText path report

/-- Write a report to a file.  The directories that lead to it are made first, and stay also if the file
cannot be written. -/
def write (tree : FileTree) (path : Path) (report : Text) : FileTree × Except Failure Unit :=
  match path.parent.refusal?, tree.makeDirectories path.parent.names.length path.parent with
  | some failure, _ => (tree, .error failure)
  | none, .error place => (tree, .error place.failure)
  | none, .ok made => writeFile made path report

end Conformance.Report
