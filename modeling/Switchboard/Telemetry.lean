/-!
# Telemetry

The log is set up once for a whole process. The build identifier of the first attempt is the one
everything reports from then on.
-/

namespace Switchboard

/-- How log entries are printed. -/
inductive LogFormat where
  | json
  | pretty
  deriving DecidableEq, Repr

def LogFormat.usual : LogFormat := .json

structure LogConfig where
  /-- What to print, as a level or a filter. -/
  level : String
  format : LogFormat
  buildSha : String
  deriving DecidableEq, Repr

inductive TelemetryError where
  /-- The log is set up already. -/
  | alreadyInstalled
  deriving DecidableEq, Repr

def TelemetryError.message : TelemetryError → String
  | .alreadyInstalled => "failed to install tracing subscriber"

/-- What set-up has been done: the first one's configuration. -/
structure Telemetry where
  installed : Option LogConfig := none
  deriving DecidableEq, Repr

namespace Telemetry

/-- The build identifier to report. -/
def buildSha (telemetry : Telemetry) : String :=
  match telemetry.installed with
  | some config => config.buildSha
  | none => "dev"

def defaultConfig (telemetry : Telemetry) : LogConfig := ⟨"info", .usual, telemetry.buildSha⟩

/-- Set the log up; only the first attempt succeeds. -/
def install (config : LogConfig) (telemetry : Telemetry) : Except TelemetryError Unit × Telemetry :=
  match telemetry.installed with
  | none => (.ok (), ⟨some config⟩)
  | some _ => (.error .alreadyInstalled, telemetry)

end Telemetry

end Switchboard
