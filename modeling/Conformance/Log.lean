import Conformance.Text.Basic

/-!
# Log records

What the harness notes while it works: warnings, and errors about cases that could not be run as they
should.
-/

namespace Conformance

/-- How serious a record is. -/
inductive LogLevel
  | warning
  | error
  deriving Repr, DecidableEq

/-- The name of a level. -/
def LogLevel.text : LogLevel → Text
  | .warning => "WARNING"
  | .error => "ERROR"

/-- A note of the harness. -/
structure LogRecord where
  level : LogLevel
  message : Text
  deriving Repr, DecidableEq

/-- A warning. -/
def LogRecord.warning (message : Text) : LogRecord :=
  ⟨.warning, message⟩

/-- An error. -/
def LogRecord.error (message : Text) : LogRecord :=
  ⟨.error, message⟩

end Conformance
