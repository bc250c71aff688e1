import Conformance.Compile.Adapter
import Conformance.Document.Operand
import Conformance.Run.Report
import Conformance.Signature

/-!
# Benchmarks

How long compilations take.  A compilation that returns counts as successful, whether or not the source
was accepted; one that fails, and a file that cannot be read, count as failed and are not timed.
-/

namespace Conformance

open Decimal

/-- The outcome of a benchmark. -/
structure BenchmarkResult where
  totalIterations : Int
  successfulRuns : Int
  failedRuns : Int
  totalTimeNs : Int
  averageTimeNs : Int
  linesOfCode : Int
  deriving Repr, DecidableEq

namespace BenchmarkResult

/-- The values that the outcome of a benchmark is made of. -/
def signature : Signature :=
  .ofClass "BenchmarkResult" ["total_iterations", "successful_runs", "failed_runs", "total_time_ns",
    "average_time_ns", "lines_of_code"] []

/-- The share of compilations that returned, of a hundred. -/
def successRate (r : BenchmarkResult) : Computed Float := do
  if r.totalIterations = 0 then pure 0.0
  else
    let runs ← double r.successfulRuns
    let all ← double r.totalIterations
    pure (runs * 100.0 / all)

/-- The whole time in milliseconds. -/
def totalTimeMs (r : BenchmarkResult) : Computed Float :=
  quotient r.totalTimeNs 1000000

/-- The average time in milliseconds. -/
def averageTimeMs (r : BenchmarkResult) : Computed Float :=
  quotient r.averageTimeNs 1000000

/-- The number of lines in a second at the average time. -/
def linesPerSecond (r : BenchmarkResult) : Computed Float := do
  if r.averageTimeNs ≤ 0 then pure 0.0
  else
    let seconds ← quotient r.averageTimeNs 1000000000
    dividedBy r.linesOfCode seconds

end BenchmarkResult

namespace Benchmark

/-- The number of compilations of a single source where no other is set. -/
def defaultIterations : Nat := 100

/-- The largest file that is compiled, in bytes. -/
def fileLimit : Int := 10 * 1024 * 1024

/-- What has been counted so far. -/
structure Tally where
  successful : Nat
  failed : Nat
  timeNs : Int
  lines : Nat
  deriving Repr, DecidableEq

/-- Nothing counted yet. -/
def Tally.zero : Tally :=
  ⟨0, 0, 0, 0⟩

/-- Count a compilation: the time it took if it returned, and the lines of its source. -/
def Tally.count (t : Tally) (elapsed : Option Int) (lines : Nat) : Tally :=
  match elapsed with
  | some elapsed =>
    { t with
      successful := t.successful + 1, timeNs := t.timeNs + elapsed, lines := t.lines + lines }
  | none => { t with failed := t.failed + 1 }

/-- The outcome for a number of compilations. -/
def Tally.result (t : Tally) (iterations lines : Nat) : BenchmarkResult where
  totalIterations := iterations
  successfulRuns := t.successful
  failedRuns := t.failed
  totalTimeNs := t.timeNs
  averageTimeNs := t.timeNs.fdiv t.successful
  linesOfCode := lines

/-- Compile a source and measure the time, unless the compilation fails. -/
def timed (a : Adapter) (source : Text) : Act (Option Int) := do
  let start := (← get).clock
  match ← (a.compile source).attempt with
  | .ok _ => pure (some ((← get).clock - start))
  | .error f => if f.isOrdinary then pure none else throw f

/-- Compile a source a number of times. -/
def repeated (a : Adapter) (source : Text) : Nat → Tally → Act Tally
  | 0, t => pure t
  | n + 1, t => do
    let elapsed ← timed a source
    repeated a source n (t.count elapsed 0)

/-- The failure of a negative number of compilations. -/
def negative (shown : Text) : Failure :=
  .badValue ("iterations must be non-negative, got " ++ shown)

/-- The number of compilations that a value stands for.  A number with a point stands for none. -/
def readIterations (value : Document) : Except Failure Int := do
  match ← value.comparedTo "<" "int" with
  | .int iterations => pure iterations
  | .float iterations =>
    if iterations < 0.0 then throw (negative (Decimal.text iterations))
    else throw (.wrongKind "'float' object cannot be interpreted as an integer")

/-- Measure a single source. -/
def single (a : Adapter) (source : Text) (iterations : Int) : Act BenchmarkResult := do
  if iterations < 0 then throw (negative s!"{iterations}")
  else
    let t ← repeated a source iterations.toNat .zero
    pure (t.result iterations.toNat (Text.countLines source))

/-- Compile each file once. -/
def eachFile (a : Adapter) (tree : FileTree) (limit : Int) : List Path → Tally → Act Tally
  | [], t => pure t
  | path :: rest, t => do
    match Fixture.read tree path limit with
    | .error fault =>
      if fault.isUnreadable then
        Act.note (.warning ("Benchmark skipping " ++ path.toText ++ ": " ++ fault.message))
        eachFile a tree limit rest (t.count none 0)
      else throw fault.failure
    | .ok source =>
      let elapsed ← timed a source
      eachFile a tree limit rest (t.count elapsed (Text.countLines source))

/-- Measure files. -/
def files (a : Adapter) (tree : FileTree) (paths : List Path) (limit : Int) :
    Act BenchmarkResult := do
  let t ← eachFile a tree limit paths .zero
  pure (t.result paths.length t.lines)

end Benchmark

end Conformance
