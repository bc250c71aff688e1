import Conformance.CommandLine.Option
import Conformance.Decimal.Reading
import Conformance.FileTree.Basic

/-!
# What a command line asks for

The commands with their options.  A command line that does not say what to do, names a file that has to be
there and is not, or gives an option a value that it cannot have, asks for nothing.  Options are looked at
in the order in which they were first given, and other arguments after them.
-/

namespace Conformance.CommandLine

/-- The options of a run. -/
structure RunOptions where
  path : Option Path
  root : Option Text
  tag : Option Text
  chapter : Option Text
  stats : Bool
  json : Bool
  reportFile : Option Text
  deriving Repr

/-- The options of a benchmark. -/
structure BenchOptions where
  files : List Text
  path : Option Path
  backend : Option Text
  iterations : Option Int
  sourceFile : Option Text
  json : Bool
  deriving Repr

/-- What is to be done. -/
inductive Action
  | run (backend : Option Text) (options : RunOptions)
  | bench (options : BenchOptions)
  | backends
  | showConfig (path : Option Path) (json : Bool)
  | validateConfig (path : Option Path)
  /-- How the command is used is shown. -/
  | help
  deriving Repr

/-- Why a command line asks for nothing. -/
inductive Misuse
  /-- It cannot be understood. -/
  | unclear
  /-- Looking at what it names has failed. -/
  | failed (failure : Failure)
  deriving Repr, DecidableEq

/-- Something that is read off a command line. -/
abbrev Reading := Except Misuse

/-! ## Values -/

/-- The rule for the option that shows how a command is used. -/
def helpRule : OptionRule :=
  .flag "--help"

/-- Go on only if something holds. -/
def require (holds : Bool) : Reading Unit :=
  if holds then .ok () else .error .unclear

/-- A text that can be looked up. -/
def lookable (text : Text) : Reading Text :=
  match textRefusal? text with
  | some failure => .error (.failed failure)
  | none => .ok text

/-- What there is at the path that a text names, if there is something. -/
def named? (tree : FileTree) (text : Text) : Reading (Option FileTree.Entry) := do
  let text ← lookable text
  pure (tree.lookUp text).toOption

/-- The path from the top of the tree that a text names. -/
def wholePath (tree : FileTree) (text : Text) : Path :=
  tree.resolve (Path.ofText text)

/-- A number of repetitions, which is at least one. -/
def repetitions? (text : Text) : Option Int :=
  match Decimal.readInteger text with
  | .ok n => if 1 ≤ n then some n else none
  | .error _ => none

/-- Check the value of an option. -/
def ValueKind.check (tree : FileTree) (text : Text) : ValueKind → Reading Unit
  | .text => .ok ()
  | .existingPath => do
    let text ← lookable text
    require (tree.find (wholePath tree text)).toOption.isSome
  | .noFile => do require (!(← named? tree text).any FileTree.Entry.isFile)
  | .noDirectory => do require (!(← named? tree text).any FileTree.Entry.isDirectory)
  | .existingFile => do require ((← named? tree text).any (!·.isDirectory))
  | .repetitions => require (repetitions? text).isSome

/-- Check the values of all options that were given. -/
def Given.check (g : Given) (tree : FileTree) (rules : List OptionRule) : Reading Unit :=
  g.names.forM fun name =>
    match (OptionRule.find? rules name).bind OptionRule.value, g.value? name with
    | some kind, some text => kind.check tree text
    | _, _ => .ok ()

/-! ## Commands -/

/-- The option that says which configuration is used. -/
def pathRule : OptionRule :=
  .valued "--path" .existingPath

/-- The option that says which backend is used. -/
def backendRule : OptionRule :=
  .valued "--backend" .text

/-- The option that asks for output that other programs can read. -/
def jsonRule : OptionRule :=
  .flag "--json-output"

/-- The options of the commands that run cases. -/
def runRules : List OptionRule :=
  [pathRule, .valued "--root" .noFile, .valued "--tag" .text, .valued "--chapter" .text,
    .flag "--stats", jsonRule, .valued "--report-file" .noDirectory, helpRule]

/-- The path that was given for a configuration. -/
def givenPath (tree : FileTree) (g : Given) : Option Path :=
  (g.value? "--path").map (wholePath tree)

/-- The options of a run that were given. -/
def runOptions (tree : FileTree) (g : Given) : RunOptions where
  path := givenPath tree g
  root := g.value? "--root"
  tag := g.value? "--tag"
  chapter := g.value? "--chapter"
  stats := g.has "--stats"
  json := g.has "--json-output"
  reportFile := g.value? "--report-file"

/-- Read the arguments of a command, which may ask for help in the place of all else. -/
def readCommand (tree : FileTree) (rules : List OptionRule) (arguments : List Text)
    (make : Given → Reading Action) : Reading Action :=
  match Given.read? rules true arguments with
  | none => .error .unclear
  | some g =>
    if g.has "--help" then pure .help
    else do
      g.check tree rules
      make g

/-- Run all cases. -/
def readRun (tree : FileTree) (arguments : List Text) : Reading Action :=
  readCommand tree (backendRule :: runRules) arguments fun g => do
    require g.arguments.isEmpty
    pure (.run (g.value? "--backend") (runOptions tree g))

/-- Run all cases with a backend that has to be named. -/
def readCompliance (tree : FileTree) (arguments : List Text) : Reading Action :=
  readCommand tree runRules arguments fun g =>
    match g.arguments with
    | [backend] => pure (.run (some backend) (runOptions tree g))
    | _ => throw .unclear

/-- The options of a benchmark. -/
def benchRules : List OptionRule :=
  [pathRule, backendRule, .valued "--iterations" .repetitions, .valued "--source" .existingFile,
    jsonRule, helpRule]

/-- Measure how long compilations take. -/
def readBench (tree : FileTree) (arguments : List Text) : Reading Action :=
  readCommand tree benchRules arguments fun g => do
    g.arguments.forM fun file => ValueKind.noDirectory.check tree file
    pure (.bench {
      files := g.arguments
      path := givenPath tree g
      backend := g.value? "--backend"
      iterations := (g.value? "--iterations").bind repetitions?
      sourceFile := g.value? "--source"
      json := g.has "--json-output" })

/-- A command that takes nothing but options. -/
def readPlain (tree : FileTree) (rules : List OptionRule) (arguments : List Text)
    (make : Given → Action) : Reading Action :=
  readCommand tree (rules ++ [helpRule]) arguments fun g => do
    require g.arguments.isEmpty
    pure (make g)

/-- Show the configuration. -/
def readShow (tree : FileTree) (arguments : List Text) : Reading Action :=
  readPlain tree [pathRule, jsonRule] arguments fun g =>
    .showConfig (givenPath tree g) (g.has "--json-output")

/-- Check the configuration. -/
def readValidate (tree : FileTree) (arguments : List Text) : Reading Action :=
  readPlain tree [pathRule] arguments fun g => .validateConfig (givenPath tree g)

/-- A command that is known by its name. -/
abbrev NamedCommand := Text × (List Text → Reading Action)

/-- The command with a name. -/
def command? (commands : List NamedCommand) (name : Text) :
    Option (List Text → Reading Action) :=
  (commands.find? (·.1 == name)).map (·.2)

/-- What is given in front of a command.  Where no command follows, what stands in its place is read as
options again. -/
def readFront? (rules : List OptionRule) (commands : List NamedCommand) (arguments : List Text) :
    Option (Given × Option (Reading Action)) :=
  match Given.read? rules false arguments with
  | none => none
  | some g =>
    match g.arguments with
    | [] => some (g, none)
    | name :: rest =>
      match command? commands name with
      | some read => some (g, some (read rest))
      | none =>
        match Given.read? rules false g.arguments with
        | some more => some (⟨g.options ++ more.options, more.arguments⟩, none)
        | none => some (g, none)

/-- The commands about configurations. -/
def readConfig (tree : FileTree) (arguments : List Text) : Reading Action :=
  match readFront? [helpRule] [("show", readShow tree), ("validate", readValidate tree)] arguments with
  | none => throw .unclear
  | some (g, action) => if g.has "--help" then pure .help else action.getD (throw .unclear)

/-- All commands. -/
def commands (tree : FileTree) : List NamedCommand :=
  [("run", readRun tree),
    ("compliance", readCompliance tree),
    ("bench", readBench tree),
    ("backends", fun arguments => readPlain tree [] arguments fun _ => .backends),
    ("config", readConfig tree)]

/-! ## The whole command line -/

/-- What stands in front of the command. -/
inductive Front
  /-- The command line cannot be understood. -/
  | unclear
  | version
  | help
  /-- A command that is known, with how much is to be shown, and what its own arguments ask for. -/
  | command (verbose : Bool) (action : Reading Action)
  deriving Repr

/-- Read a command line.  What the command's own arguments ask for may still be unclear. -/
def Front.read (tree : FileTree) (arguments : List Text) : Front :=
  let rules : List OptionRule :=
    [⟨["--verbose", "-v"], none⟩, .flag "--debug", .flag "--version", helpRule]
  match readFront? rules (commands tree) arguments with
  | none => .unclear
  | some (g, action) =>
    match g.options.find? fun o => (["--version", "--help"] : List Text).contains o.name with
    | some o => if o.name == "--version" then .version else .help
    | none =>
      match action with
      | some action => .command (g.has "--verbose" || g.has "--debug") action
      | none => .unclear

end Conformance.CommandLine
