import Std.Time
import Unified2.Startup

/-! The command line: settings from the environment, log lines on standard error. -/

namespace Unified2

/-- The variables that settings are read from. -/
def settingVariables : List String :=
  ["U2_CAPABILITIES", "U2_LOG_LEVEL", "U2_POLL_INTERVAL", "U2_QUEUE_SIZE", "U2_READ_LIMIT"]

/-- The setting variables that the environment holds. -/
def readEnvironment : IO Environment :=
  settingVariables.filterMapM fun name => do return (← IO.getEnv name).map ((name, ·))

/-- The time now, to the microsecond. -/
def readTimestamp : IO String := do
  let timestamp ← Std.Time.Timestamp.now
  let now := Std.Time.DateTime.ofTimestamp timestamp Std.Time.TimeZone.ZoneRules.UTC
  return now.format "uuuu-MM-dd'T'HH:mm:ss.SSSSSSxxx"

end Unified2

/-- Starts the host and tells what came of it: zero if it serves, one if it does not. -/
def main : IO UInt32 := do
  let startup := Unified2.Startup.run (← Unified2.readEnvironment) Unified2.Startup.importedAtStart
  for line in startup.lines (← Unified2.readTimestamp) do
    IO.eprintln line
  match startup.outcome with
  | .ok _ => return 0
  | .error error =>
    IO.eprintln error.message
    return 1
