import Conformance.Config.Basic
import Conformance.Environment
import Conformance.Log
import Conformance.Report.Json

/-!
# Reporting failures to a service

Failures are reported only if that is switched on and an address is set.  Once reporting has started it
stays on.
-/

namespace Conformance.Telemetry

/-- What reporting is started with. -/
structure Start where
  dsn : Text
  release : Text
  environment : Text
  sendDefaultPii : Bool
  serverName : Text
  inAppInclude : List Text
  deriving Repr, DecidableEq

/-- The name of the harness with its version. -/
def harnessRelease : Text :=
  "svconform@" ++ Report.version

/-- The environment that failures are said to come from. -/
def environmentOf (e : Environment) (m : Config.Monitoring) : Text :=
  if !m.environment.isEmpty then m.environment
  else if ((e.get? "CI").getD "").isEmpty then "local" else "ci"

/-- What reporting is started with under a configuration. -/
def Start.of (e : Environment) (m : Config.Monitoring) : Start where
  dsn := m.dsn
  release := harnessRelease
  environment := environmentOf e m
  sendDefaultPii := false
  serverName := ""
  inAppInclude := ["svconform"]

/-- Whether reporting is on, what it was started with if it was started now, and what was noted. -/
structure Activation where
  active : Bool
  started : Option Start
  log : List LogRecord
  deriving Repr, DecidableEq

/-- Start reporting, unless it is on already, is not switched on or has no address. -/
def activate (e : Environment) (active : Bool) (m : Config.Monitoring) : Activation :=
  if active then ⟨true, none, []⟩
  else if !m.enabled then ⟨false, none, []⟩
  else if m.dsn.isEmpty then
    ⟨false, none, [.warning "Sentry enabled but no DSN configured"]⟩
  else ⟨true, some (Start.of e m), []⟩

/-- Start reporting from the environment alone, before any configuration is read. -/
def activateFromEnvironment (e : Environment) (active : Bool) : Activation :=
  let trimmed (name : Text) :=
    Text.ofList (Text.trimBlanks ((e.get? name).getD "").toList)
  let dsn := trimmed "SVCONFORM_SENTRY_DSN"
  let enabled := (["1", "true", "yes"] : List Text).contains
    (Text.lowercase (trimmed "SVCONFORM_SENTRY_ENABLED"))
  if enabled && !dsn.isEmpty then activate e active ⟨true, dsn, ""⟩ else ⟨active, none, []⟩

/-- Reporting that is on stays on and is not started again. -/
@[simp]
theorem activate_active (e : Environment) (m : Config.Monitoring) :
    activate e true m = ⟨true, none, []⟩ :=
  rfl

/-- Reporting is on afterwards exactly if it was on, or is switched on and has an address. -/
theorem active_activate (e : Environment) (active : Bool) (m : Config.Monitoring) :
    (activate e active m).active = (active || (m.enabled && !m.dsn.isEmpty)) := by
  cases active <;> cases he : m.enabled <;> cases hd : m.dsn.isEmpty <;>
    simp [activate, he, hd]

end Conformance.Telemetry
