import Conformance.Config.Validation
import Conformance.Document.Operand

/-!
# Settings as they are given

A setting may be put in the place of another one before anybody has looked at its kind.  The same is asked
of such settings as of a configuration; a value of which it cannot be asked is a failure, and the settings
after it are not looked at.
-/

namespace Conformance.Config

open Decimal

/-- Settings as they are given: a value, or settings under names. -/
inductive Draft
  | single (value : Document)
  /-- Settings under names, and the name of their kind. -/
  | group (kind : Text) (entries : List (Text × Draft))
  /-- Something of a kind that is no setting and has no settings inside it. -/
  | foreign (kind : Text)
  deriving Repr

namespace Draft

/-- A group of values. -/
def record (kind : Text) (entries : List (Text × Document)) : Draft :=
  .group kind (entries.map fun (name, value) => (name, .single value))

/-- The settings of a configuration. -/
def ofConfig (c : Config) : Draft :=
  .group "SVConformConfig"
    [("fixtures", record "FixturesConfig"
        [("root", .text c.fixtures.root),
          ("chapters", .texts c.fixtures.chapters),
          ("generic_dir", .text c.fixtures.generic),
          ("extensions", .texts c.fixtures.extensions),
          ("max_fixture_bytes", .int c.fixtures.limit)]),
      ("run", record "RunConfig"
        [("backend", .text c.selection.backend), ("skip_tags", .texts c.selection.skipTags)]),
      ("backends", .group "BackendsConfig"
        [("command", record "CommandBackendConfig"
          [("argv", .texts c.command.arguments), ("timeout", .ofNumber c.command.timeout)])]),
      ("benchmark", record "BenchmarkConfig" [("iterations", .int c.iterations)]),
      ("report", record "ReportConfig"
        [("format", .text c.report.format), ("output", .text c.report.output)]),
      ("sentry", record "SentryConfig"
        [("enabled", .bool c.monitoring.enabled),
          ("dsn", .text c.monitoring.dsn),
          ("environment", .text c.monitoring.environment)]),
      ("source", .single (.ofText? (c.source.map Path.toText)))]

/-! ## Places -/

/-- What follows from the settings of a group, and is no setting. -/
def derivedFrom (kind : Text) : List Text :=
  if kind = "SVConformConfig" then ["fixtures_root"] else []

/-- What can be done with a group. -/
def operationsOn (kind : Text) : List Text :=
  if kind = "BackendsConfig" then ["options_for"] else []

/-- What stands under a name in a value. -/
def inside (value : Document) (name : Text) : Except Failure Draft :=
  match value.member? name with
  | none => .error (value.lacking name)
  | some (.part number) => .ok (.single number)
  | some .operation => .ok (.foreign "builtin_function_or_method")

/-- What stands under a name. -/
def get (name : Text) : Draft → Except Failure Draft
  | .single value => inside value name
  | .foreign kind => .error (.lacking kind name)
  | .group kind entries =>
    match entries.lookup name with
    | some inner => .ok inner
    | none =>
      if (derivedFrom kind).contains name then .ok (.foreign "PosixPath")
      else if (operationsOn kind).contains name then .ok (.foreign "method")
      else .error (.lacking kind name)

/-- Put something under a name.  A group takes it under any name but those of what follows from its
settings. -/
def set (d : Draft) (name : Text) (inner : Draft) : Except Failure Draft :=
  match d with
  | .single value => .error (value.irreplaceable name)
  | .foreign kind => .error (.lacking kind name)
  | .group kind entries =>
    if (derivedFrom kind).contains name then .error (.derived kind name)
    else .ok (.group kind (Document.assign (· == ·) name inner entries))

/-- The name that a kind stands under.  No value is a kind, so that none can be put there. -/
def kindName : Text := "__class__"

/-- The failure of a value that is put where a kind has to be. -/
def noKind (value : Document) : Failure :=
  .wrongKind (kindName ++ " must be set to a class, not '" ++ value.kind ++ "' object")

/-- Put a value in the place that names lead to. -/
def put (value : Document) : List Text → Draft → Except Failure Draft
  | [], _ => .ok (.single value)
  | [name], d => if name = kindName then .error (noKind value) else d.set name (.single value)
  | name :: rest, d => do
    let inner ← put value rest (← d.get name)
    d.set name inner

/-- The value in the place that names lead to. -/
def valueAt (d : Draft) (names : List Text) : Except Failure Document := do
  match ← names.foldlM (fun d name => d.get name) d with
  | .single value => pure value
  | .group kind _ | .foreign kind => throw (.lacking kind "value")

/-- What has been given a value has this value. -/
theorem lookup_assign (name : Text) (inner : Draft) (entries : List (Text × Draft)) :
    (Document.assign (· == ·) name inner entries).lookup name = some inner := by
  induction entries with
  | nil => simp [Document.assign]
  | cons entry rest ih =>
    obtain ⟨other, old⟩ := entry
    by_cases h : other = name
    · simp [Document.assign, h]
    · have h' : (name == other) = false := by simp [Ne.symm h]
      simp [Document.assign, h, List.lookup_cons, h', ih]

/-- What has been put under a name stands there. -/
theorem get_of_set {d changed : Draft} {name : Text} {inner : Draft}
    (h : d.set name inner = .ok changed) : changed.get name = .ok inner := by
  cases d with
  | single value => cases h
  | foreign kind => cases h
  | group kind entries =>
    by_cases isDerived : (derivedFrom kind).contains name = true
    · simp only [set, isDerived, if_true] at h
      cases h
    · simp only [set, isDerived] at h
      cases h
      simp only [get, lookup_assign]

/-! ## What is wrong -/

/-- What is wrong with a value that has to be a positive number. -/
def positiveErrors (name : Text) (value : Document) : Except Failure (List Text) := do
  let number ← value.asNumber
  if number.isNotPositive then
    let shown ← value.displayed
    pure [notPositive name shown]
  else pure []

/-- What is wrong with one extension, which has to be a text. -/
def extensionError : Document → Except Failure (List Text)
  | .text extension => .ok (if startsWithDot extension then [] else [badExtension extension])
  | other => .error (other.lacking "startswith")

/-- What is wrong with the extensions of fixtures. -/
def extensionErrors (value : Document) : Except Failure (List Text) := do
  let errors ← (← value.parts).mapM extensionError
  pure ((if value.isTruthy then [] else [noExtensions]) ++ errors.flatten)

/-- Whether an argument of the command says where the file goes: as a part of a text, or as one of several
values. -/
def namesFile : Document → Except Failure Bool
  | .text argument => .ok (Text.contains argument Backend.filePlaceholder)
  | .list items | .tuple items | .set items => .ok (items.any (·.isText Backend.filePlaceholder))
  | .map entries => .ok (entries.any (·.1.isText Backend.filePlaceholder))
  | other => .error (.wrongKind ("argument of type '" ++ other.kind ++ "' is not iterable"))

/-- What is wrong with the command. -/
def argumentErrors (value : Document) : Except Failure (List Text) := do
  if !value.isTruthy then pure [noArguments]
  else
    let named ← (← value.parts).anyM namesFile
    pure (if named then [] else [noPlaceholder])

/-- What is wrong with the settings of the command backend. -/
def commandErrors (d : Draft) : Except Failure (List Text) := do
  let command ← (← d.get "backends").get "command"
  let arguments ← argumentErrors (← command.valueAt ["argv"])
  let timeout ← positiveErrors "backends.command.timeout" (← command.valueAt ["timeout"])
  pure (arguments ++ timeout)

/-- What is wrong with the format of reports, which is looked up among the known ones. -/
def formatErrors (value : Document) : Except Failure (List Text) := do
  if !value.isKey then .error (.wrongKind ("unhashable type: '" ++ value.kind ++ "'"))
  else if reportFormats.any (value.isText ·) then pure []
  else
    let shown ← value.displayed
    pure [unknownFormat shown]

/-- What is wrong with the choice of backend: nothing but an empty one. -/
def backendErrors (value : Document) : List Text :=
  if value.isTruthy then [] else [noBackend]

/-- What is wrong with the settings of the service that failures are reported to. -/
def monitoringErrors (d : Draft) : Except Failure (List Text) := do
  let enabled ← d.valueAt ["sentry", "enabled"]
  if !enabled.isTruthy then pure []
  else
    let dsn ← d.valueAt ["sentry", "dsn"]
    pure (if dsn.isTruthy then [] else [noDsn])

/-- What is wrong with settings that are used with a backend. -/
def errors (d : Draft) (backend : Document) : Except Failure (List Text) := do
  let limit ← positiveErrors "fixtures.max_fixture_bytes" (← d.valueAt ["fixtures", "max_fixture_bytes"])
  let extensions ← extensionErrors (← d.valueAt ["fixtures", "extensions"])
  let selected ← d.valueAt ["run", "backend"]
  let used := if backend.isTruthy then backend else selected
  let command ← if used.isText Backend.Command.name then d.commandErrors else pure []
  let iterations ← positiveErrors "benchmark.iterations" (← d.valueAt ["benchmark", "iterations"])
  let format ← formatErrors (← d.valueAt ["report", "format"])
  let monitoring ← d.monitoringErrors
  pure (limit ++ extensions ++ backendErrors selected ++ command ++ iterations ++ format ++ monitoring)

/-! ## Settings of a configuration -/

/-- A number of a configuration is judged as a setting is. -/
theorem positiveErrors_int (name : Text) (n : Int) :
    positiveErrors name (.int n) = Config.positiveErrors name n := by
  by_cases h : 0 < n
  · have h' : ¬ n ≤ 0 := by omega
    simp [positiveErrors, Config.positiveErrors, Document.asNumber_int, Number.isNotPositive, h, h',
      bind, Except.bind]
  · have h' : n ≤ 0 := by omega
    simp only [positiveErrors, Config.positiveErrors, Document.asNumber_int, Number.isNotPositive, h, h',
      decide_true, if_true, if_false, bind, Except.bind, Document.displayed_int]

/-- The extensions of a configuration are judged as a setting is. -/
theorem extensionErrors_texts (extensions : List Text) :
    extensionErrors (.texts extensions) = .ok (Config.extensionErrors extensions) := by
  have each : ∀ extensions : List Text, ∃ errors,
      (extensions.map Document.text).mapM extensionError = .ok errors ∧
        errors.flatten = (extensions.filter (!startsWithDot ·)).map badExtension := by
    intro extensions
    induction extensions with
    | nil => exact ⟨[], rfl, rfl⟩
    | cons e rest ih =>
      obtain ⟨errors, run, flat⟩ := ih
      refine ⟨(if startsWithDot e then [] else [badExtension e]) :: errors, ?_, ?_⟩
      · rw [List.map_cons, List.mapM_cons, run]
        rfl
      · cases h : startsWithDot e <;> simp [h, flat]
  obtain ⟨errors, run, flat⟩ := each extensions
  simp only [extensionErrors, Document.parts, Document.texts, bind, Except.bind, run, flat,
    Config.extensionErrors]
  cases extensions <;> rfl

/-- The command of a configuration is judged as a setting is. -/
theorem argumentErrors_texts (arguments : List Text) :
    argumentErrors (.texts arguments) = .ok (if arguments.isEmpty then [noArguments]
      else if arguments.any (Text.contains · Backend.filePlaceholder) then [] else [noPlaceholder]) := by
  have each : ∀ arguments : List Text, (arguments.map Document.text).anyM namesFile =
      .ok (arguments.any (Text.contains · Backend.filePlaceholder)) := by
    intro arguments
    induction arguments with
    | nil => rfl
    | cons a rest ih =>
      cases h : Text.contains a Backend.filePlaceholder <;>
        simp [namesFile, h, ih, bind, Except.bind, pure, Except.pure]
  cases arguments with
  | nil => rfl
  | cons a rest =>
    show (do
        let named ← ((a :: rest).map Document.text).anyM namesFile
        pure (if named then [] else [noPlaceholder])) = _
    rw [each]
    rfl

end Draft

end Conformance.Config
