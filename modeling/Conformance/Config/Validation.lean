import Conformance.Config.Basic

/-!
# Valid configurations

What must hold of a configuration before anything is run with it.  All that does not hold is listed, in
the order of the sections.

Main results:

- `Config.errors_eq_ok`: the errors of a configuration, section by section.
- `Config.startsWithDot_of_errors`: every extension of a valid configuration starts with a dot.
-/

namespace Conformance.Config

open Decimal

/-- The formats that a report can have. -/
def reportFormats : List Text := ["json", "terminal"]

/-! ## What can be wrong -/

/-- A number that has to be positive is not. -/
def notPositive (name shown : Text) : Text :=
  name ++ " must be positive (got: " ++ shown ++ ")"

/-- There are no extensions of fixtures. -/
def noExtensions : Text := "fixtures.extensions must not be empty"

/-- An extension of fixtures does not start with a dot. -/
def badExtension (extension : Text) : Text :=
  "fixtures.extensions entry '" ++ extension ++ "' must start with '.'"

/-- No backend is chosen. -/
def noBackend : Text := "run.backend is required"

/-- There is no command to run. -/
def noArguments : Text := "backends.command.argv must not be empty"

/-- The command does not say where the file goes. -/
def noPlaceholder : Text :=
  "backends.command.argv must contain the " ++ Backend.filePlaceholder ++ " placeholder"

/-- Reports do not have a format of this name. -/
def unknownFormat (shown : Text) : Text :=
  let formats := Text.intercalate ", " reportFormats
  ("report.format must be one of " ++ formats ++ " (got: " ++ shown ++ ")")

/-- Failures are to be reported, but not where to. -/
def noDsn : Text := "sentry.dsn is required when sentry.enabled is true"

/-! ## What is wrong -/

/-- Whether an extension starts with a dot. -/
def startsWithDot (extension : Text) : Bool :=
  extension.toList.head? == some '.'

/-- What is wrong with a number that has to be positive.  One with too many digits cannot be named. -/
def positiveErrors (name : Text) (number : Int) : Except Failure (List Text) := do
  if 0 < number then pure []
  else
    let digits ← Document.intText number
    pure [notPositive name digits]

/-- What is wrong with the extensions of fixtures. -/
def extensionErrors (extensions : List Text) : List Text :=
  (if extensions.isEmpty then [noExtensions] else []) ++
    (extensions.filter (!startsWithDot ·)).map badExtension

/-- What is wrong with the settings of the command backend. -/
def commandErrors (c : Command) : List Text :=
  (if c.arguments.isEmpty then [noArguments]
    else if c.arguments.any (Text.contains · Backend.filePlaceholder) then []
    else [noPlaceholder]) ++
  (if c.timeout.isNotPositive then
    [notPositive "backends.command.timeout" c.timeout.text] else [])

/-- The backend that is used: the one that is asked for, unless it is none or has an empty name. -/
def chosenBackend (c : Config) (backend : Option Text) : Text :=
  match backend with
  | some name => if name.isEmpty then c.selection.backend else name
  | none => c.selection.backend

/-- What is wrong with the choice of backend.  The settings of a backend that is not used may be wrong. -/
def backendErrors (c : Config) (backend : Option Text) : List Text :=
  (if c.selection.backend.isEmpty then [noBackend] else []) ++
  (if c.chosenBackend backend = Backend.Command.name then commandErrors c.command else [])

/-- What is wrong with the settings of reports. -/
def reportErrors (r : Report) : List Text :=
  if reportFormats.contains r.format then [] else [unknownFormat r.format]

/-- What is wrong with the settings of the service that failures are reported to. -/
def monitoringErrors (m : Monitoring) : List Text :=
  if m.enabled && m.dsn.isEmpty then [noDsn] else []

/-- What is wrong with a configuration that is used with a backend. -/
def errors (c : Config) (backend : Option Text) : Except Failure (List Text) := do
  let limitErrors ← positiveErrors "fixtures.max_fixture_bytes" c.fixtures.limit
  let iterationErrors ← positiveErrors "benchmark.iterations" c.iterations
  pure (limitErrors ++ extensionErrors c.fixtures.extensions ++ backendErrors c backend ++
    iterationErrors ++ reportErrors c.report ++ monitoringErrors c.monitoring)

/-- Nothing is wrong with the configuration where nothing is set. -/
theorem errors_default : (default.errors none).toOption = some [] := by
  decide +kernel

/-! ## What is known of valid configurations -/

variable {c : Config} {backend : Option Text} {found : List Text}

/-- The errors of a configuration are those of its sections. -/
theorem errors_eq_ok (h : c.errors backend = .ok found) :
    ∃ limitErrors iterationErrors,
      positiveErrors "fixtures.max_fixture_bytes" c.fixtures.limit = .ok limitErrors ∧
      positiveErrors "benchmark.iterations" c.iterations = .ok iterationErrors ∧
      found = limitErrors ++ extensionErrors c.fixtures.extensions ++ backendErrors c backend ++
        iterationErrors ++ reportErrors c.report ++ monitoringErrors c.monitoring := by
  unfold errors at h
  cases hlimit : positiveErrors "fixtures.max_fixture_bytes" c.fixtures.limit with
  | error f =>
      rw [hlimit] at h
      cases h
  | ok limitErrors =>
      cases hiterations : positiveErrors "benchmark.iterations" c.iterations with
      | error f =>
          rw [hlimit, hiterations] at h
          cases h
      | ok iterationErrors =>
          rw [hlimit, hiterations] at h
          exact ⟨limitErrors, iterationErrors, rfl, rfl, (Except.ok.inj h).symm⟩

theorem backendErrors_of_errors (h : c.errors backend = .ok []) : c.backendErrors backend = [] := by
  obtain ⟨limitErrors, iterationErrors, -, -, hnil⟩ := errors_eq_ok h
  simp_all

/-- Every extension of a valid configuration starts with a dot. -/
theorem startsWithDot_of_errors (h : c.errors backend = .ok []) {extension : Text}
    (hmem : extension ∈ c.fixtures.extensions) : startsWithDot extension = true := by
  obtain ⟨limitErrors, iterationErrors, -, -, hnil⟩ := errors_eq_ok h
  have hextensions : extensionErrors c.fixtures.extensions = [] := by
    simp_all
  simp only [extensionErrors, List.append_eq_nil_iff, List.map_eq_nil_iff, List.filter_eq_nil_iff] at hextensions
  simpa using hextensions.2 extension hmem

theorem exists_of_startsWithDot {extension : Text} (h : startsWithDot extension = true) :
    ∃ rest, extension.toList = .char '.' :: rest := by
  unfold startsWithDot at h
  cases hlist : extension.toList with
  | nil =>
      rw [hlist] at h
      cases h
  | cons c rest =>
      rw [hlist] at h
      simp at h
      exact ⟨rest, by rw [h]⟩

end Conformance.Config
