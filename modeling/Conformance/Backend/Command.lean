import Conformance.Backend.Subprocess
import Conformance.Backend.ToolMessage
import Conformance.Compile.Compiler
import Conformance.Text.Search

/-!
# The command backend

An external tool is driven as a compiler.  The source is written to a file in a work directory and the
tool is run on it; a tool that ends with status zero has accepted the source, and otherwise its output is
read for diagnostics.  A tool that crashes, hangs or is missing is a failure of the host.
-/

namespace Conformance.Backend

open Decimal

/-! ## Settings -/

/-- What stands for the path of the source in a command line. -/
def filePlaceholder : Text := "\x7bfile\x7d"

/-- The command line where no other is set. -/
def defaultArguments : List Text :=
  ["verilator", "--lint-only", "-Wno-fatal", filePlaceholder]

/-- The time limit in seconds where no other is set. -/
def defaultTimeout : Number := .float 60.0

/-- The settings of a command backend.  The time limit and the extra variables are kept as they were given,
and looked at when the tool is run. -/
structure CommandSettings where
  arguments : List Text
  timeout : Document
  environment : Document
  deriving Repr

namespace CommandSettings

/-- Settings with a command line, which must not be empty. -/
def create (arguments : List Text) (timeout environment : Document) :
    Except Failure CommandSettings :=
  if arguments.isEmpty then .error (.badValue "argv cannot be empty")
  else .ok ⟨arguments, timeout, environment⟩

/-- The name of the tool. -/
def tool (s : CommandSettings) : Text :=
  s.arguments.headD ""

/-- What the backend says about itself. -/
def info (s : CommandSettings) : CompilerInfo :=
  { CompilerInfo.named ("command:" ++ ((Path.ofText s.tool).name)) with version := "external" }

/-- The command line for a source file. -/
def command (s : CommandSettings) (file : Path) : List Text :=
  s.arguments.map (Text.replaceAll filePlaceholder file.toText)

end CommandSettings

/-! ## Work directories -/

/-- The work directories of a command backend, by the order in which they were made: how many there have
been, which one is in use, and which ones are still there. -/
structure Workspace where
  created : Nat
  current : Option Nat
  present : List Nat
  deriving Repr, DecidableEq

namespace Workspace

/-- No work directory has been made. -/
def empty : Workspace :=
  ⟨0, none, []⟩

/-- Make a work directory and use it. -/
def prepare (w : Workspace) : Workspace :=
  ⟨w.created + 1, some w.created, w.present ++ [w.created]⟩

/-- Remove the work directory in use. -/
def shutdown (w : Workspace) : Workspace :=
  match w.current with
  | some n => { w with current := none, present := w.present.filter (· != n) }
  | none => w

/-- Make sure that a work directory is in use. -/
def ensure (w : Workspace) : Workspace :=
  if w.current.isSome then w else w.prepare

/-- What a request does to the work directories. -/
def step (w : Workspace) : Request → Workspace
  | .prepare => w.prepare
  | .compileAdvanced _ => w.ensure
  | .shutdown => w.shutdown
  | .compile _ | .describe => w

/-- What requests do, one after another. -/
def run (w : Workspace) (requests : List Request) : Workspace :=
  requests.foldl step w

/-- The sources that have been taken in the work directory in use, in their order. -/
def taken (requests : List Request) : List Text :=
  requests.foldl (fun sources request =>
    match request with
    | .prepare | .shutdown => []
    | .compileAdvanced source => sources ++ [source]
    | .compile _ | .describe => sources) []

/-- The sources that requests hand over, each with the number of the work directory in which it is taken. -/
def uses (w : Workspace) : List Request → List (Nat × Text)
  | [] => []
  | .compileAdvanced source :: rest => (w.ensure.current.getD 0, source) :: uses w.ensure rest
  | request :: rest => uses (w.step request) rest

/-- Whether the work directory in use is there. -/
def isReady (w : Workspace) : Bool :=
  match w.current with
  | some n => w.present.contains n
  | none => false

/-- The path of a work directory, whose name ends in eight characters of its own. -/
def path (owner serial : Nat) : Path where
  root := .top
  names := ["tmp", s!"svconform-{paddedNumber 4 owner}_{paddedNumber 3 serial}"]

end Workspace

/-! ## Compiling -/

namespace Command

/-- The name under which the backend is known. -/
def name : Text := "command"

/-- The name of the source file in a work directory. -/
def sourceName : Text := "fixture.sv"

/-- The error of a tool that rejects a source without a diagnostic: the last line that it wrote. -/
def plainError (status : Int) (stdout stderr : Text) : CompileError :=
  let output := if stderr.isEmpty then stdout else stderr
  let lines := Text.breakLines (Text.trimBlanks output.toList)
  let message := ((lines.getLast?).map Text.ofList).getD s!"exit status {status}"
  ⟨message, 0, 0, none, .other⟩

/-- The counters of a source that a tool was run on. -/
def metrics (source : Text) (elapsed : Int) : CompileMetrics :=
  { CompileMetrics.zero with compileTimeNs := elapsed, linesProcessed := Text.countLines source }

/-- The result for the output of a tool that has ended by itself. -/
def judge (source : Text) (file : Path) (elapsed : Int) (status : Int) (stdout stderr : Text) :
    Except ReadingError CompileResult :=
  (readDiagnostics (stderr ++ "\n" ++ stdout) (some file.toText)).map fun (errors, warnings) =>
    let result : CompileResult :=
      { CompileResult.accepted (metrics source elapsed) with warnings := warnings }
    if status = 0 then result
    else if errors.isEmpty then result.addError (plainError status stdout stderr)
    else result.addErrors errors

/-- What is made of a tool that was run. -/
def conclude (s : CommandSettings) (source : Text) (file : Path) (elapsed : Int) :
    Except Failure SubprocessResult → Except Failure CompileResult
  | .error failure =>
    let tool := (s.command file).headD ""
    if failure.typeName = "FileNotFoundError" then
      .error (.host ("Compiler executable not found: " ++ tool))
    else .error failure
  | .ok r =>
    let tool := (s.command file).headD ""
    let limit := s.timeout.display?.getD ""
    if r.timedOut then .error (.host (tool ++ " timed out after " ++ limit ++ "s"))
    else if r.returnCode < 0 then
      .error (.host (tool ++ s!" was killed by signal {-r.returnCode}"))
    else
      match judge source file elapsed r.returnCode r.stdout r.stderr with
      | .ok result => .ok result
      | .error error => .error (.badValue error.message)

/-- What is asked for to take a source. -/
def launch (s : CommandSettings) (directory : Path) : Launch where
  command := .texts (s.command (directory.child sourceName))
  directory := directory
  timeout := s.timeout
  environment := s.environment

/-- A file in a work directory: where it lies and the bytes that it holds. -/
structure SourceFile where
  path : Path
  content : ByteArray

/-- The file that a source is written to, unless it holds what cannot be written. -/
def sourceFile (directory : Path) (source : Text) : Except Text.EncodingFault SourceFile :=
  (Text.encode source).map (⟨directory.child sourceName, ·⟩)

/-- The files that sources were written to; nothing is left of a source that could not be written. -/
def writtenFiles (directory : Path) (sources : List Text) : List SourceFile :=
  sources.filterMap fun source => (sourceFile directory source).toOption

/-- A way to run a tool on a file, given the files on which it has been run in the same place: how it ended,
what was noted, and the time it took. -/
abbrev Tool :=
  Launch → List SourceFile → SourceFile → Except Failure SubprocessResult × List LogRecord × Int

/-- A work directory that was in use before the one that is: what was asked for in it, the files on which the tool has
been run in it, and whether it has been removed. -/
structure Former where
  launch : Launch
  files : List SourceFile
  removed : Bool

/-- The work directories that were in use before the one that is, in the order in which they were made. -/
def formers (s : CommandSettings) (owner : Nat) (requests : List Request) : List Former :=
  let w := Workspace.empty.run requests
  let serials := (List.range w.created).filter fun n => w.current != some n
  serials.map fun n =>
    let directory := Workspace.path owner n
    let sources := (Workspace.empty.uses requests).filter (·.1 == n)
    { launch := launch s directory
      files := writtenFiles directory (sources.map (·.2))
      removed := !w.present.contains n }

/-- What is noted when the tool is not on the search path. -/
def prepareLog (s : CommandSettings) (isOnPath : Text → Bool) : List LogRecord :=
  if isOnPath s.tool then [] else [.warning ("Executable " ++ s.tool ++ " not found on PATH")]

/-- The work directory in use. -/
def directoryOf (owner : Nat) (w : Workspace) : Path :=
  Workspace.path owner (w.current.getD 0)

/-- What the backend answers about a source on which the tool has been run. -/
def answer (s : CommandSettings) (isOnPath : Text → Bool) (owner : Nat) (w : Workspace) (source : Text)
    (ran : Except Failure SubprocessResult × List LogRecord × Int) : Reply (Returned CompileResult) :=
  let file := (directoryOf owner w.ensure).child sourceName
  let prepared := if w.current.isSome then [] else prepareLog s isOnPath
  let (ending, log, elapsed) := ran
  { ending := (conclude s source file elapsed ending).map .expected
    elapsed := elapsed
    log := prepared ++ log }

/-- Compile a source, in a work directory that is made if none is in use.  A source that cannot be written
is not handed to the tool. -/
def compile (s : CommandSettings) (isOnPath : Text → Bool) (tool : Tool) (owner : Nat)
    (w : Workspace) (earlier : List Text) (source : Text) : Reply (Returned CompileResult) :=
  let directory := directoryOf owner w.ensure
  answer s isOnPath owner w source <| match sourceFile directory source with
    | .error fault => (.error (.unencodable fault), [], 0)
    | .ok file => tool (launch s directory) (writtenFiles directory earlier) file

/-- The command backend as a compiler with a number.  How the tool is run depends on the work directories that were
in use before. -/
def compiler (s : CommandSettings) (isOnPath : Text → Bool) (tool : List Former → Tool) (number : Nat) :
    Compiler :=
  let requests (trace : Trace) := (trace.requests number).reverse
  { typeName := "CommandCompiler"
    prepare := .callable fun _ => ⟨.ok (), 0, prepareLog s isOnPath⟩
    compileAdvanced := .callable fun trace source =>
      compile s isOnPath (tool (formers s number (requests trace))) number
        (Workspace.empty.run (requests trace)) (Workspace.taken (requests trace)) source
    compile := .missing
    describe := .callable fun _ => .now (.ok (.expected s.info))
    shutdown := .callable fun _ => .now (.ok ()) }

end Command

end Conformance.Backend
