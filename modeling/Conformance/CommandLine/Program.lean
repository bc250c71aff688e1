import Conformance.CommandLine.Console
import Conformance.CommandLine.Request
import Conformance.Config.Load
import Conformance.Config.Validation
import Conformance.Document.Yaml.Block
import Conformance.Run.Runner

/-!
# The commands

What each command does, and how a whole command line ends: with an exit status, what was shown and printed,
and the failure that nothing took up, if there was one.
-/

namespace Conformance.CommandLine

open Terminal (Display)

/-! ## Configurations -/

/-- Load the configuration, or tell the user why that is not possible. -/
def loadConfig (path : Option Path) : Step Config := do
  let h ← Step.host
  let (ending, records) := Config.load h.tree h.environment path
  Step.notes records
  match ending with
  | .ok config => pure config
  | .error f =>
    if f.isConfiguration then Step.refuse ("Failed to load configuration: " ++ f.message)
    else throw (.failed f)

/-- The heading above what is wrong with a configuration. -/
def errorHeading (errors : List Text) : Display :=
  Terminal.error s!"Found {errors.length} configuration error(s):"

/-- What is wrong with a configuration, numbered. -/
def errorLines (errors : List Text) : List Display :=
  errors.zipIdx.map fun (error, n) => .line (s!"  {n + 1}. " ++ Markup.styled "red" error)

/-- Load a configuration that can be used with a backend. -/
def loadValidConfig (path : Option Path) (backend : Option Text) : Step Config := do
  let config ← loadConfig path
  let errors ← Step.ofExcept (config.errors backend)
  if errors.isEmpty then
    let h ← Step.host
    Step.report (Telemetry.activate h.environment h.reporting config.monitoring)
    pure config
  else
    Step.displays (errorHeading errors :: errorLines errors)
    throw .abort

/-- The backend that is used. -/
def backendName (config : Config) (backend : Option Text) : Text :=
  config.chosenBackend backend

/-- A source of compilers for a backend. -/
def factoryFor (s : Setting) (config : Config) (backend : Text) : Step Factory :=
  match s.substitute with
  | some factory => pure factory
  | none => do
    match (← Step.table s).factory backend (config.optionsFor backend) with
    | .ok factory => pure factory
    | .error f => Step.refuse f.message

/-- Do what cannot be done with an unusable backend, or tell the user of it. -/
def withBackend {α : Type} (backend : Text) (action : Act α) : Step α := do
  match ← Step.attempt action with
  | .ok value => pure value
  | .error f =>
    if f.isUnusableBackend then Step.refuse ("Cannot use backend '" ++ backend ++ "': " ++ f.message)
    else throw (.failed f)

/-! ## Runs -/

/-- What a run reports, and where to. -/
structure Reporting where
  timestamp : Text
  json : Bool
  file : Option Text
  compiler : CompilerInfo

/-- Print the results of a run and write them to a file, as far as that is asked for. -/
def emitReport (r : Reporting) (run : RunReport) (extra : List (Text × Document)) :
    Step Unit := do
  let text := Report.text r.timestamp ⟨some r.compiler, some run, [], extra⟩
  if r.json then Step.print (← Step.ofExcept text)
  match r.file with
  | some file => Step.writeReport (Path.ofText file) (← Step.ofExcept text)
  | none => pure ()

/-- The text of an option that counts only if it is not empty. -/
def nonEmpty : Option Text → Option Text
  | some text => if text.isEmpty then none else some text
  | none => none

/-- The statistics of a suite as a document. -/
def statisticsDocument (stats : List (Text × Nat)) : Document :=
  .record (stats.map fun (chapter, count) => (chapter, .ofNat count))

/-- Run the cases with a tag and report them. -/
def runTagged (verbose : Bool) (runner : Runner) (suite : Suite) (tag : Text) (r : Reporting) :
    Step (Except Failure Unit) := do
  let tree := (← Step.host).tree
  match ← Step.watched verbose (runner.runByTag tree suite tag) with
  | .error f => pure (.error f)
  | .ok report =>
    if !r.json then Step.display (← Step.ofExcept (Terminal.tagReport report))
    emitReport r (.ofResults report.cases) [("tag", .text tag)]
    if report.success then pure (.ok ()) else throw (.exit 1)

/-- Run all cases and report them. -/
def runWhole (verbose : Bool) (runner : Runner) (suite : Suite) (stats : Bool) (r : Reporting) :
    Step (Except Failure Unit) := do
  let tree := (← Step.host).tree
  match ← Step.watched verbose (runner.runAll tree suite) with
  | .error f => pure (.error f)
  | .ok report =>
    let statistics := suite.chapterStatistics
    if !r.json then
      if stats then
        let counts := statistics.map fun (id, n) => (id, (n : Int))
        Step.display (← Step.ofExcept (Terminal.chapterStatistics counts))
      Step.displays (← Step.ofExcept (Terminal.runReport report))
    emitReport r report (if stats then [("chapters", statisticsDocument statistics)] else [])
    if report.success then pure (.ok ()) else throw (.exit report.exitCode)

/-- The suite that a run is about. -/
def loadSuite (config : Config) (tree : FileTree) (root : Path) (chapter : Option Text) :
    Suite.Loaded :=
  let suite := Suite.create config.fixtures.extensions config.fixtures.limit
  match chapter with
  | some chapter => suite.reload tree (chapterDirectory root chapter)
  | none => suite.loadCatalog tree root config.fixtures.chapters
      (nonEmpty (some config.fixtures.generic))

/-- A run whose cases have been loaded. -/
structure Prepared where
  /-- The name of the backend. -/
  backend : Text
  runner : Runner
  suite : Suite
  reporting : Reporting

/-- Prepare a run: load the configuration, check that the backend can be used, and load the cases. -/
def prepareRun (s : Setting) (backend : Option Text) (o : RunOptions) : Step Prepared := do
  let config ← loadValidConfig o.path backend
  let name := backendName config backend
  let root := ((nonEmpty o.root).map Path.ofText).getD config.fixturesRoot
  let json := o.json || config.report.format == "json"
  let factory ← factoryFor s config name
  let compiler ← withBackend name (Runner.probe factory)
  let runner : Runner :=
    { factory := factory
      skipTags := config.selection.skipTags
      limit := config.fixtures.limit
      fixturesRoot := some root
      observed := !json }
  let loaded := loadSuite config (← Step.host).tree root o.chapter
  Step.notes loaded.log
  let _ ← Step.ofExcept loaded.count
  if !json then Step.displays (Terminal.runHeader compiler loaded.suite.cases.length)
  let file := match nonEmpty o.reportFile with
    | some file => some file
    | none => nonEmpty (some config.report.output)
  pure ⟨name, runner, loaded.suite, ⟨s.timestamp, json, file, compiler⟩⟩

/-- Run the cases that have been loaded, or those with the tag that is asked for. -/
def runPrepared (verbose : Bool) (o : RunOptions) (p : Prepared) : Step Unit := do
  let ending ← match o.tag with
    | some tag => runTagged verbose p.runner p.suite tag p.reporting
    | none => runWhole verbose p.runner p.suite o.stats p.reporting
  match ending with
  | .ok () => pure ()
  | .error f =>
    if f.family == .unadaptable then
      Step.refuse ("Cannot use backend '" ++ p.backend ++ "': " ++ f.message)
    else throw (.failed f)

/-- Run cases. -/
def run (s : Setting) (verbose : Bool) (backend : Option Text) (o : RunOptions) :
    Step Unit := do
  let p ← prepareRun s backend o
  runPrepared verbose o p

/-! ## Benchmarks -/

/-- What is compiled where no source is named. -/
def sampleSource : Text :=
  Text.intercalate "\n" [
    "module counter #(parameter WIDTH = 8) (",
    "    input  logic             clk,",
    "    input  logic             rst_n,",
    "    output logic [WIDTH-1:0] count",
    ");",
    "    always_ff @(posedge clk or negedge rst_n) begin",
    "        if (!rst_n)",
    "            count <= '0;",
    "        else",
    "            count <= count + 1'b1;",
    "    end",
    "endmodule",
    ""]

/-- The source that is compiled repeatedly. -/
def benchSource (o : BenchOptions) : Step Text :=
  match o.sourceFile with
  | some file =>
    if o.files.isEmpty then do
      match Fixture.read (← Step.host).tree (Path.ofText file) Benchmark.fileLimit with
      | .ok source => pure source
      | .error fault =>
        if fault.isUnreadable then Step.refuse fault.message else throw (.failed fault.failure)
    else pure sampleSource
  | none => pure sampleSource

/-- The name of what is measured. -/
def benchLabel (o : BenchOptions) : Text :=
  if !o.files.isEmpty then s!"{o.files.length} files"
  else
    match o.sourceFile with
    | some file => (Path.ofText file).name
    | none => "built-in module"

/-- Measure how long compilations take. -/
def bench (s : Setting) (o : BenchOptions) : Step Unit := do
  let config ← loadValidConfig o.path o.backend
  let name := backendName config o.backend
  let factory ← factoryFor s config name
  let source ← benchSource o
  let adapter ← withBackend name (Adapter.create factory)
  let tree := (← Step.host).tree
  let (result, compiler) ← Step.perform (adapter.within do
    let result ←
      if o.files.isEmpty then
        Benchmark.single adapter source (o.iterations.getD config.iterations)
      else
        Benchmark.files adapter tree (o.files.map Path.ofText) Benchmark.fileLimit
    let compiler ← adapter.describe
    pure (result, compiler))
  let label := benchLabel o
  if o.json then
    let report := Report.text s.timestamp ⟨some compiler, none, [(label, result)], []⟩
    Step.print (← Step.ofExcept report)
  else
    Step.display (Terminal.header ("Benchmarking " ++ compiler.name ++ " " ++ compiler.version))
    Step.display (← Step.ofExcept (Terminal.benchmark label result))

/-! ## Backends -/

/-- What a backend says about itself, if it can be asked. -/
def describeBackend (table : Backend.Table) (name : Text) : Act (Option CompilerInfo) := do
  let asked : Act CompilerInfo := do
    let factory ← Act.ofExcept (table.factory name [])
    (← Adapter.create factory).describe
  match ← asked.attempt with
  | .ok compiler => pure (some compiler)
  | .error f =>
    if f.isOrdinary then
      Act.note (.warning ("Backend " ++ name ++ " could not be described: " ++ f.message))
      pure none
    else throw f

/-- List the backends. -/
def backends (s : Setting) : Step Unit := do
  let table ← Step.table s
  let rows ← table.names.mapM fun name => do
    let compiler ← Step.perform (describeBackend table name)
    pure (name, compiler)
  if rows.isEmpty then Step.display (Terminal.warning "No backends registered")
  else Step.display (Terminal.backends rows)

/-! ## Showing and checking configurations -/

/-- Show the configuration, unless a number of it has too many digits. -/
def showConfig (path : Option Path) (json : Bool) : Step Unit := do
  let config ← loadConfig path
  let document := Document.record config.masked.toEntries
  if !json then
    Step.displays [.blank, .line (Markup.styled "bold cyan" "Configuration:"), .blank]
  let _ ← Step.ofExcept document.displayed
  Step.print (if json then Json.render .readableAscii document else Yaml.renderBlock document)

/-- Check the configuration. -/
def validateConfig (path : Option Path) : Step Unit := do
  let config ← loadConfig path
  let errors ← Step.ofExcept (config.errors none)
  if errors.isEmpty then Step.display (Terminal.success "Configuration is valid!")
  else
    Step.displays ([errorHeading errors, .blank] ++ errorLines errors ++ [.blank])
    throw .abort

/-! ## Command lines -/

/-- The status of a command line that cannot be understood. -/
def unclearStatus : Nat := 2

/-- Do what is asked for. -/
def perform (s : Setting) (verbose : Bool) : Action → Step Unit
  | .run backend options => run s verbose backend options
  | .bench options => bench s options
  | .backends => backends s
  | .showConfig path json => showConfig path json
  | .validateConfig path => validateConfig path
  | .help => pure ()

/-- Do what a command line asks for.  Reporting may start before the arguments of the command are looked
at. -/
def interpret (s : Setting) (arguments : List Text) : Step Unit := do
  match Front.read (← Step.host).tree arguments with
  | .unclear => throw (.exit unclearStatus)
  | .version => Step.print ("svconform, version " ++ Report.version)
  | .help => pure ()
  | .command verbose action =>
    let h ← Step.host
    Step.report (Telemetry.activateFromEnvironment h.environment h.reporting)
    match action with
    | .ok action => perform s verbose action
    | .error .unclear => throw (.exit unclearStatus)
    | .error (.failed f) => throw (.failed f)

/-- How a command line ends. -/
structure Ending where
  status : Nat
  shown : List Display
  printed : Text
  written : List (Path × ByteArray)
  session : Session
  started : List Telemetry.Start
  /-- The failure that nothing took up. -/
  failure : Option Failure

/-- The status that a command line ends with, and the failure that is left.  A request to stop leaves no
failure. -/
def conclude : Except Stop Unit → Nat × Option Failure
  | .ok () => (0, none)
  | .error (.exit status) => (status, none)
  | .error .abort => (1, none)
  | .error (.failed f) => (1, if f.family == .interrupt then none else some f)

/-- Carry out a command line. -/
def execute (s : Setting) (h : Host) (arguments : List Text) : Ending × Host :=
  let (ending, console) := ((interpret s arguments).run).run (.start h)
  let (status, failure) := conclude ending
  let ending : Ending :=
    { status := status
      shown := console.shown.reverse
      printed := console.printed
      written := console.written
      session := console.session
      started := console.started
      failure := failure }
  (ending, console.left)

/-- A request to stop leaves the status of a failure, but no failure. -/
theorem conclude_interrupt (typeName message : Text) :
    conclude (.error (.failed ⟨.interrupt, typeName, message⟩)) = (1, none) :=
  rfl

end Conformance.CommandLine
