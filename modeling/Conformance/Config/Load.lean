import Conformance.Config.Basic
import Conformance.Config.Conversion
import Conformance.Config.Placeholder
import Conformance.Document.Yaml.Value

/-!
# Reading configurations

A configuration is read from the nearest file of the known name at or above a directory, or from a file that
is named.  What the file does not set is taken from the environment or is as usual.
-/

namespace Conformance.Config

/-- The name of configuration files. -/
def fileName : Text := ".svconform.yml"

/-! ## Finding the file -/

/-- The nearest configuration file at or above a directory. -/
def find? (tree : FileTree) (start : Path) : Except Failure (Option Path) :=
  match start.refusal? with
  | some failure => .error failure
  | none =>
    let places := (tree.resolve start).withParents.map (·.child fileName)
    (places.findM? tree.hasFile).mapError (·.failure)

/-- The configuration file for a path, which may name the file itself or where to start looking. -/
def sourceOf? (tree : FileTree) (path : Option Path) : Except Failure (Option Path) := do
  match path with
  | some path =>
    let isFile ← (tree.hasFile path).mapError (·.failure)
    if isFile then pure (some path) else find? tree path
  | none => find? tree tree.currentPath

/-! ## Reading the file -/

/-- The characters of a file, with line ends in one form. -/
def readFile (tree : FileTree) (path : Path) : Except Failure Text :=
  match tree.find path with
  | .ok entry =>
    match entry.content?.map Text.decodeExactly with
    | some (.ok text) => .ok (Text.ofList (Text.unifyBreaks text.toList))
    | some (.error fault) => .error ⟨.badValue, "UnicodeDecodeError", fault.message⟩
    | none => .error (FileTree.FaultAt.failure ⟨.isDirectory, path⟩)
  | .error fault => .error (FileTree.FaultAt.failure ⟨fault, path⟩)

/-- The entries of a configuration file as they stand there. -/
def readEntries (tree : FileTree) (path : Path) :
    Except Failure (List (Document × Document)) := do
  let text ← readFile tree path
  match Yaml.load text with
  | .error .malformed =>
    .error (.configuration ("Invalid YAML in " ++ path.toText ++ ": " ++ Yaml.Fault.malformed.message))
  | .error fault =>
    .error ⟨if fault.isExhausted then .exhausted else .plain, fault.typeName, fault.message⟩
  | .ok .null => .ok []
  | .ok (.map entries) => .ok entries
  | .ok _ => .error (.configuration (path.toText ++ " must contain a mapping at the top level"))

/-! ## Sections -/

/-- The entries of a section; anything but a mapping counts as empty. -/
def sectionOf (name : Text) (entries : List (Document × Document)) :
    List (Document × Document) :=
  match (Document.map entries).get? name with
  | some (.map inner) => inner
  | _ => []

/-- A setting of a section, or what is given if it is not there. -/
def setting (name : Text) (entries : List (Document × Document)) (usual : Document) :
    Document :=
  ((Document.map entries).get? name).getD usual

/-- A setting of a section, if it is there. -/
def setting? (name : Text) (entries : List (Document × Document)) : Option Document :=
  (Document.map entries).get? name

/-- A setting that a variable of the environment stands in for. -/
def settingOr (e : Environment) (variableName usual : Text) (name : Text)
    (entries : List (Document × Document)) : Document :=
  setting name entries (.text ((e.get? variableName).getD usual))

/-- The settings of fixtures. -/
def readFixtures (e : Environment) (entries : List (Document × Document)) :
    Except Problem Fixtures := do
  let inner := sectionOf "fixtures" entries
  let root ← readText (settingOr e "SVCONFORM_FIXTURES" defaultRoot "root" inner)
  let chapters ← readTexts Suite.defaultChapters (setting? "chapters" inner)
  let generic ← readOptionalText (setting "generic_dir" inner (.text Suite.defaultGeneric))
  let extensions ← readTexts Suite.defaultExtensions (setting? "extensions" inner)
  let limit ← readInt (setting "max_fixture_bytes" inner (.int Fixture.defaultLimit))
  pure ⟨root, chapters, generic, extensions, limit⟩

/-- The settings of the choice of backend and cases. -/
def readSelection (e : Environment) (entries : List (Document × Document)) :
    Except Problem Selection := do
  let inner := sectionOf "run" entries
  let backend ← readText (settingOr e "SVCONFORM_BACKEND" "reference" "backend" inner)
  let skipTags ← readTexts [] (setting? "skip_tags" inner)
  pure ⟨backend, skipTags⟩

/-- The settings of the command backend. -/
def readCommand (entries : List (Document × Document)) : Except Problem Command := do
  let inner := sectionOf "command" (sectionOf "backends" entries)
  let arguments ← readTexts Backend.defaultArguments (setting? "argv" inner)
  let timeout ← readFloat (setting "timeout" inner (.ofNumber Backend.defaultTimeout))
  pure ⟨arguments, .float timeout⟩

/-- How often a benchmark is repeated. -/
def readIterations (entries : List (Document × Document)) : Except Problem Int :=
  readInt (setting "iterations" (sectionOf "benchmark" entries)
    (.ofNat Benchmark.defaultIterations))

/-- The settings of reports. -/
def readReport (entries : List (Document × Document)) : Except Problem Report := do
  let inner := sectionOf "report" entries
  let format ← readText (setting "format" inner (.text "terminal"))
  let output ← readOptionalText (setting "output" inner (.text ""))
  pure ⟨format, output⟩

/-- The settings of the service that failures are reported to. -/
def readMonitoring (e : Environment) (entries : List (Document × Document)) :
    Except Problem Monitoring := do
  let inner := sectionOf "sentry" entries
  let enabled ← readSwitch (settingOr e "SVCONFORM_SENTRY_ENABLED" "" "enabled" inner)
  let dsn ← readText (settingOr e "SVCONFORM_SENTRY_DSN" "" "dsn" inner)
  let environment ← readText (setting "environment" inner (.text ""))
  pure ⟨enabled, dsn, environment⟩

/-- The configuration that entries stand for. -/
def ofEntries (e : Environment) (source : Option Path) (entries : List (Document × Document)) :
    Except Problem Config := do
  let fixtures ← readFixtures e entries
  let selection ← readSelection e entries
  let command ← readCommand entries
  let iterations ← readIterations entries
  let report ← readReport entries
  let monitoring ← readMonitoring e entries
  pure ⟨fixtures, selection, command, iterations, report, monitoring, source⟩

/-! ## Loading -/

/-- The file that a configuration is read from, if there is one, and its entries. -/
def readSource (tree : FileTree) (path : Option Path) :
    Except Failure (Option Path × List (Document × Document)) := do
  match ← sourceOf? tree path with
  | some file =>
    let entries ← readEntries tree file
    pure (some file, entries)
  | none => pure (none, [])

/-- Load the configuration for a path.  Notes are kept also when the configuration cannot be used. -/
def load (tree : FileTree) (e : Environment) (path : Option Path) : Noted (Except Failure Config) :=
  match readSource tree path with
  | .error failure => (.error failure, [])
  | .ok (source, entries) =>
    let (resolved, notes) := resolveEntries e entries
    let file := (source.map Path.toText).getD fileName
    ((ofEntries e source resolved).mapError (·.failure file), notes)

end Conformance.Config
