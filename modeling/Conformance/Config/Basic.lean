import Conformance.Backend.Command
import Conformance.Document.Display
import Conformance.Fixture.Case
import Conformance.Fixture.Suite
import Conformance.Run.Benchmark

/-!
# Configurations

What can be set about a run: where fixtures are, which backend takes them and with which settings, how
often a benchmark is repeated, how results are reported, and whether failures are reported to a service.
-/

namespace Conformance

open Decimal

namespace Config

/-- Where fixtures are and how they are read. -/
structure Fixtures where
  root : Text
  chapters : List Text
  /-- The directory of fixtures without a chapter; an empty name stands for none. -/
  generic : Text
  extensions : List Text
  limit : Int
  deriving Repr

/-- Which backend is used, and which cases are left out. -/
structure Selection where
  backend : Text
  skipTags : List Text
  deriving Repr

/-- The settings of the command backend. -/
structure Command where
  arguments : List Text
  timeout : Number
  deriving Repr

/-- How results are reported; an empty output stands for none. -/
structure Report where
  format : Text
  output : Text
  deriving Repr

/-- Whether and where failures are reported to a service. -/
structure Monitoring where
  enabled : Bool
  dsn : Text
  environment : Text
  deriving Repr

end Config

/-- A configuration, and the file it was read from if there is one. -/
structure Config where
  fixtures : Config.Fixtures
  selection : Config.Selection
  command : Config.Command
  iterations : Int
  report : Config.Report
  monitoring : Config.Monitoring
  source : Option Path
  deriving Repr

namespace Config

/-- The root of fixtures where no other is set. -/
def defaultRoot : Text := "sv-tests/tests"

/-- The configuration where nothing is set. -/
def default : Config where
  fixtures :=
    { root := defaultRoot
      chapters := Suite.defaultChapters
      generic := Suite.defaultGeneric
      extensions := Suite.defaultExtensions
      limit := Fixture.defaultLimit }
  selection := ⟨"reference", []⟩
  command := ⟨Backend.defaultArguments, Backend.defaultTimeout⟩
  iterations := Benchmark.defaultIterations
  report := ⟨"terminal", ""⟩
  monitoring := ⟨false, "", ""⟩
  source := none

/-- The root of fixtures.  One that is relative starts at the directory of the configuration file. -/
def fixturesRoot (c : Config) : Path :=
  let root := Path.ofText c.fixtures.root
  match c.source with
  | some source => source.parent.join root
  | none => root

/-- The options that a backend is made with. -/
def optionsFor (c : Config) (backend : Text) : List (Text × Document) :=
  if backend = "command" then
    [("argv", .texts c.command.arguments), ("timeout", .ofNumber c.command.timeout)]
  else []

/-- The configuration as a document. -/
def toEntries (c : Config) : List (Text × Document) :=
  [("fixtures", .record
      [("root", .text c.fixtures.root),
        ("chapters", .texts c.fixtures.chapters),
        ("generic_dir", .text c.fixtures.generic),
        ("extensions", .texts c.fixtures.extensions),
        ("max_fixture_bytes", .int c.fixtures.limit)]),
    ("run", .record
      [("backend", .text c.selection.backend), ("skip_tags", .texts c.selection.skipTags)]),
    ("backends", .record
      [("command", .record
        [("argv", .texts c.command.arguments), ("timeout", .ofNumber c.command.timeout)])]),
    ("benchmark", .record [("iterations", .int c.iterations)]),
    ("report", .record [("format", .text c.report.format), ("output", .text c.report.output)]),
    ("sentry", .record
      [("enabled", .bool c.monitoring.enabled),
        ("dsn", .text c.monitoring.dsn),
        ("environment", .text c.monitoring.environment)]),
    ("source", .ofText? (c.source.map Path.toText))]

/-! ## Masking -/

/-- The length up to which a secret is hidden as a whole. -/
def shortSecret : Nat := 8

/-- A secret with all but its ends hidden. -/
def maskSecret (secret : Text) : Text :=
  let chars := secret.toList
  if chars.isEmpty then ""
  else if chars.length ≤ shortSecret then "***"
  else .ofList (chars.take 4) ++ "..." ++ .ofList (chars.drop (chars.length - 4))

/-- The configuration with its secret masked. -/
def masked (c : Config) : Config :=
  { c with monitoring := { c.monitoring with dsn := maskSecret c.monitoring.dsn } }

@[simp]
theorem maskSecret_empty : maskSecret "" = "" := by
  simp [maskSecret]

@[simp]
theorem dsn_masked (c : Config) : c.masked.monitoring.dsn = maskSecret c.monitoring.dsn :=
  rfl

end Config

end Conformance
