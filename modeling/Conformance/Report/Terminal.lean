import Conformance.Capacity
import Conformance.Compile.Result
import Conformance.Decimal.Notation
import Conformance.Document.Display
import Conformance.Fixture.Case
import Conformance.Report.Markup
import Conformance.Run.Benchmark
import Conformance.Run.Report

/-!
# Reports on a terminal

What a user sees of a run: a line for each case, tables, and a bar of the outcomes.  Everything is made of
markup, panels and tables; how they are drawn is left to the terminal.
-/

namespace Conformance.Terminal

open Decimal Markup

/-! ## What can be shown -/

/-- A column of a table. -/
structure Column where
  header : Text
  style : Text
  justify : Text
  deriving Repr, DecidableEq

/-- A table.  Sections end behind the rows with the given numbers. -/
structure Table where
  title : Text
  titleStyle : Text
  showHeader : Bool
  columns : List Column
  rows : List (List Text)
  sectionsAfter : List Nat
  deriving Repr, DecidableEq

/-- Something that is shown. -/
inductive Display
  | line (markup : Text)
  | panel (markup borderStyle : Text) (padding : Nat × Nat)
  | table (table : Table)
  deriving Repr, DecidableEq

/-- An empty line. -/
def Display.blank : Display :=
  .line ""

/-- A column without a style, on the left. -/
def Column.plain (header : Text) : Column :=
  ⟨header, "", "left"⟩

/-- A bold column on the left. -/
def Column.bold (header : Text) : Column :=
  ⟨header, "bold", "left"⟩

/-- A column without a style, on the right. -/
def Column.right (header : Text) : Column :=
  ⟨header, "", "right"⟩

/-- A table of measured values, which needs no header. -/
def measures (title : Text) (rows : List (List Text)) : Table where
  title := title
  titleStyle := "bold cyan"
  showHeader := false
  columns := [.bold "Metric", .right "Value"]
  rows := rows
  sectionsAfter := []

/-! ## Parts -/

/-- The colour of a share of cases that passed, of a hundred. -/
def rateColor (rate : Float) : Text :=
  if 100.0 ≤ rate then "green" else if 80.0 ≤ rate then "yellow" else "red"

/-- A time in seconds, in a unit that suits it. -/
def durationText (seconds : Float) : Text :=
  if 60.0 ≤ seconds then s!"{fixed 1 (seconds / 60.0)}m"
  else if seconds < 1.0 then s!"{fixed 0 (seconds * 1000.0)}ms"
  else s!"{fixed 1 seconds}s"

/-- The length of messages where no other is asked for. -/
def messageLength : Int := 80

/-- The first characters of a text, or all but the last ones if the number is negative. -/
def takeSigned (n : Int) (text : List CodePoint) : List CodePoint :=
  if 0 ≤ n then text.take n.toNat else text.take (text.length - n.natAbs)

/-- A text that is cut, with a mark at its end, if it is too long. -/
def truncate (limit : Int) (text : Text) : Text :=
  let chars := text.toList
  if (chars.length : Int) ≤ limit then text
  else Text.ofList (takeSigned (limit - 1) chars ++ [.char '…'])

/-- The colour of an outcome. -/
def colorOf : Outcome → Text
  | .pass => "green"
  | .fail => "red"
  | .skip => "yellow"
  | .errorCompile | .errorRuntime => "magenta"

/-- The sign of an outcome. -/
def iconOf : Outcome → Text
  | .pass => "✓"
  | .fail => "✗"
  | .skip => "⊘"
  | .errorCompile | .errorRuntime => "⚠"

/-! ## Messages -/

/-- A heading. -/
def header (title : Text) : Display :=
  .line ("\n" ++ styled "bold cyan" (escape title) ++ "\n")

/-- A message of success. -/
def success (message : Text) : Display :=
  .line (styled "green" "✓" ++ " " ++ escape message)

/-- A message of failure. -/
def error (message : Text) : Display :=
  .line (styled "red" "✗" ++ " " ++ escape message)

/-- A warning. -/
def warning (message : Text) : Display :=
  .line (styled "yellow" "⚠" ++ " " ++ escape message)

/-- A remark. -/
def info (message : Text) : Display :=
  .line (styled "dim" (escape message))

/-- What is shown before a run: the compiler and the number of cases. -/
def runHeader (compiler : CompilerInfo) (count : Int) : List Display :=
  let title := styled "bold white" (escape compiler.name)
  let version := styled "dim" (escape compiler.version)
  [.blank, .panel (title ++ " " ++ version ++ s!"\n{count} SystemVerilog compliance tests") "cyan" (0, 2)]

/-- What is shown of a case whose run has ended.  A case that passed is shown only if everything is. -/
def caseFinished (verbose : Bool) (c : TestCase) (result : CaseResult) : List Display :=
  if result.outcome = .pass && !verbose then []
  else
    let label := (iconOf result.outcome) ++ " " ++ result.outcome.text.toUpper
    let detail := if result.message.isEmpty then c.description else result.message
    let line := "  " ++ (styled (colorOf result.outcome) label) ++ " " ++ (escape c.name)
    let remark : Text :=
      if detail.isEmpty then ""
      else " " ++ styled "dim" ("- " ++ (escape (truncate messageLength detail)))
    [.line (line ++ remark)]

/-! ## The bar -/

/-- How many cases ended in which way. -/
structure Counts where
  passed : Int
  failed : Int
  skipped : Int
  errors : Int
  deriving Repr, DecidableEq

namespace Counts

/-- The number of all cases. -/
def total (c : Counts) : Int :=
  c.passed + c.failed + c.skipped + c.errors

/-- The counts with their colours. -/
def colored (c : Counts) : List (Int × Text) :=
  [(c.passed, "green"), (c.failed, "red"), (c.skipped, "yellow"), (c.errors, "magenta")]

end Counts

/-- The number of cells of a bar for a count. -/
def cellCount (width total count : Int) : Except Failure Nat := do
  let share ← quotient count total
  let cells ← rounded (share * (← double width))
  (listLength cells).mapError (·.failure)

/-- How many cells each colour asks for. -/
def cellCounts (width : Int) (c : Counts) : Except Failure (List (Nat × Text)) :=
  c.colored.mapM fun (count, color) => do
    let cells ← cellCount width c.total count
    pure (cells, color)

/-- The colours of the cells of a bar.  What does not fit is left out, and what is left of the width stays
dim. -/
def cells (width : Nat) (counts : List (Nat × Text)) : List Text :=
  let filled := (counts.flatMap fun (count, color) =>
    List.replicate (min count width) color).take width
  filled ++ List.replicate (width - filled.length) ("dim" : Text)

/-- The cells of one colour side by side. -/
def cellRun (color : Text) (length : Nat) : Text :=
  let cell : CodePoint := if color = "dim" then '░' else '█'
  styled color (Text.ofList (List.replicate length cell))

/-- A bar of the outcomes of a run. -/
def resultBar (width : Int) (c : Counts) : Except Failure Text := do
  if c.total = 0 then
    let length ← (listLength width).mapError (·.failure)
    pure (cellRun "dim" length)
  else
    let counts ← cellCounts width c
    pure (Text.join (((cells width.toNat counts).splitBy (· == ·)).map fun run =>
      cellRun (run.headD "dim") run.length))

/-- The width of a bar where no other is asked for. -/
def barWidth : Int := 40

/-- Every cell of a bar is filled or dim. -/
theorem length_cells (width : Nat) (counts : List (Nat × Text)) :
    (cells width counts).length = width := by
  simp only [cells, List.length_append, List.length_replicate, List.length_take]
  omega

/-- A count with its sign and its name, unless it is zero. -/
def countPart (color icon name : Text) (count : Int) : List Text :=
  if count = 0 then [] else [styled color (icon ++ s!" {count} " ++ name)]

/-- The bar of a run with its figures. -/
def summaryBar (c : Counts) (durationMs : Float) : Except Failure (List Display) := do
  if c.total = 0 then pure [.line ("  " ++ styled "dim" "No tests executed")]
  else
    let share ← quotient c.passed c.total
    let rate := share * 100.0
    let bar ← resultBar barWidth c
    let total ← Document.intText c.total
    let parts := countPart "green" "✓" "passed" c.passed ++
      countPart "red" "✗" "failed" c.failed ++
      countPart "yellow" "⊘" "skipped" c.skipped ++
      countPart "magenta" "⚠" "errors" c.errors
    pure [.blank,
      .line ("  " ++ styled "bold" total ++ " tests  " ++ bar ++ "  " ++
        styled ("bold " ++ rateColor rate) s!"{fixed 0 rate}%" ++ " pass rate  " ++
        styled "dim" ("⏱ " ++ (durationText (durationMs / 1000.0)))),
      .line ("  " ++ Text.intercalate "  " parts),
      .blank]

/-! ## Tables -/

/-- The times of a run. -/
def performance (r : RunReport) : Except Failure Display := do
  let testsPerSecond ← r.testsPerSecond
  pure (.table (measures "Performance" [
    ["Total execution time", s!"{fixed 2 r.totalDurationMs} ms"],
    ["Total compilation time", s!"{fixed 2 r.compileDurationMs} ms"],
    ["Average per test", s!"{fixed 2 r.averageMs} ms"],
    ["Tests per second", fixed 0 testsPerSecond]]))

/-- The largest number of failures that are shown. -/
def failureLimit : Nat := 50

/-- The row of a failure. -/
def failureRow (result : CaseResult) : List Text :=
  [escape result.name,
    styled (colorOf result.outcome) ((iconOf result.outcome) ++ " " ++ result.outcome.text),
    escape (truncate messageLength result.message)]

/-- The failures of a run. -/
def failures (r : RunReport) : List Display :=
  let all := r.failures
  if all.isEmpty then []
  else
    let table : Table :=
      { title := s!"Failures ({all.length})"
        titleStyle := "bold red"
        showHeader := true
        columns := [.bold "Test", ⟨"Outcome", "", "center"⟩, .plain "Message"]
        rows := (all.take failureLimit).map failureRow
        sectionsAfter := [] }
    .table table ::
      if failureLimit < all.length then [info s!"... and {all.length - failureLimit} more"]
      else []

/-- The counts of a run. -/
def countsOf (r : RunReport) : Counts :=
  ⟨r.passed, r.failed, r.skipped, r.errors⟩

/-- Everything about a run that has ended. -/
def runReport (r : RunReport) : Except Failure (List Display) := do
  let times ← performance r
  let bar ← summaryBar (countsOf r) r.totalDurationMs
  pure (failures r ++ [times] ++ bar ++
    [if r.success then success "All compliance tests passed"
      else error s!"{r.failed} failed, {r.errors} errors"])

/-- The outcome of a run over the cases with a tag. -/
def tagReport (r : TagReport) : Except Failure Display := do
  if r.matched = 0 then pure (warning ("No tests found with tag: " ++ r.tag))
  else
    let share ← quotient r.passed r.matched
    pure (.line ("\nTag " ++ styled "bold" (escape r.tag) ++ " results: " ++
      styled (rateColor (share * 100.0)) s!"{r.passed}/{r.matched} passed"))

/-- The number of cases of each chapter. -/
def chapterStatistics (stats : List (Text × Int)) : Except Failure Display := do
  if stats.isEmpty then pure (info "No chapter fixtures loaded")
  else
    let sum ← Document.intText ((stats.map (·.2)).foldl (· + ·) 0)
    pure (.table {
      title := "Chapter Statistics"
      titleStyle := "bold cyan"
      showHeader := true
      columns := [.bold "Chapter", .right "Tests"]
      rows := stats.map (fun (chapter, count) => [escape chapter, toString count]) ++
        [[styled "bold" "Total", styled "bold" sum]]
      sectionsAfter := [stats.length - 1] })

/-- The outcome of a benchmark. -/
def benchmark (label : Text) (r : BenchmarkResult) : Except Failure Display := do
  let successRate ← r.successRate
  let totalTimeMs ← r.totalTimeMs
  let averageTimeMs ← r.averageTimeMs
  let linesPerSecond ← r.linesPerSecond
  let rate := s!"({fixed 1 successRate}%)"
  pure (.table (measures ("Benchmark: " ++ (escape label)) [
    ["Iterations", toString r.totalIterations],
    ["Successful runs", s!"{r.successfulRuns} " ++ (styled (rateColor successRate) rate)],
    ["Failed runs", toString r.failedRuns],
    ["Total time", s!"{fixed 2 totalTimeMs} ms"],
    ["Average time", s!"{fixed 3 averageTimeMs} ms"],
    ["Lines of code", toString r.linesOfCode],
    ["Lines per second", grouped linesPerSecond]]))

/-- The row of a backend, which may not be available. -/
def backendRow : Text × Option CompilerInfo → List Text
  | (name, none) => [escape name, styled "red" "unavailable", "-", "-"]
  | (name, some compiler) =>
    let standards := Text.intercalate ", " (compiler.standards.map Standard.text)
    [escape name, escape compiler.name, escape compiler.version,
      if standards.isEmpty then "-" else standards]

/-- The backends and what they say about themselves. -/
def backends (rows : List (Text × Option CompilerInfo)) : Display :=
  .table {
    title := "Backends"
    titleStyle := "bold cyan"
    showHeader := true
    columns := [.bold "Name", .plain "Compiler", .plain "Version", .plain "Standards"]
    rows := rows.map backendRow
    sectionsAfter := [] }

/-! ## Plain text

What is shown on a terminal that draws nothing: markup without its tags, panels without their borders, and
tables whose columns stand below each other. -/

/-- The blanks that fill a text up to a width, before and behind it. -/
def margins (justify : Text) (width : Nat) (text : Text) : Nat × Nat :=
  let free := width - text.length
  if justify = "right" then (free, 0)
  else if justify = "center" then (free / 2, free - free / 2)
  else (0, free)

/-- A text that is filled up to a width. -/
def padded (justify : Text) (width : Nat) (text : Text) : Text :=
  let (before, behind) := margins justify width text
  Text.ofList (List.replicate before ' ') ++ text ++ Text.ofList (List.replicate behind ' ')

/-- Some blanks behind each cell but the last. -/
def cellGap : Text := "  "

namespace Table

/-- The rows as a reader sees them, the header first if there is one. -/
def visibleRows (t : Table) : List (List Text) :=
  (if t.showHeader then [t.columns.map (·.header)] else []) ++
    t.rows.map (·.map Markup.visible)

/-- The width of a column: that of its longest cell. -/
def columnWidth (rows : List (List Text)) (n : Nat) : Nat :=
  (rows.map fun row => (row.getD n "").length).foldl max 0

/-- A row as a line. -/
def rowLine (columns : List (Column × Nat)) (row : List Text) : Text :=
  Text.intercalate cellGap ((columns.zip row).map fun ((column, width), cell) =>
    padded column.justify width cell)

/-- A table as lines, below its title. -/
def plainLines (t : Table) : List Text :=
  let rows := t.visibleRows
  let columns := t.columns.zipIdx.map fun (column, n) => (column, columnWidth rows n)
  Markup.visible t.title :: rows.map (rowLine columns)

theorem length_plainLines (t : Table) :
    t.plainLines.length = t.rows.length + (if t.showHeader then 2 else 1) := by
  cases h : t.showHeader <;> simp [plainLines, visibleRows, h]

end Table

/-- Something that is shown, as plain text. -/
def Display.plainLines : Display → List Text
  | .line markup => [Markup.visible markup]
  | .panel markup _ (_, sides) =>
    (Markup.visible markup).splitOn '\n' |>.map fun line =>
      Text.ofList (List.replicate sides ' ') ++ line
  | .table t => t.plainLines

end Conformance.Terminal
