import Unified2.Host

/-! Starting the program: settings, log, capabilities, service. -/

namespace Unified2

/-- Why the program failed. -/
inductive StartupError
  | settings (error : SettingsError)
  | level (error : LevelError)
  | load (error : LoadError)
  /-- The service of a server failed. -/
  | service (error : LoadError)
  deriving DecidableEq, Repr

/-- The wording of the error. -/
def StartupError.message : StartupError → String
  | settings error => error.message
  | level error => error.message
  | load error | service error => error.message

/-- What came of starting the program. -/
structure Startup (World Object Other Server : Type) where
  /-- Why the program failed, if it did. -/
  outcome : Except StartupError Unit
  /-- The hosts whose servers were served, one for each time. -/
  served : List (Assembly Object Other Server)
  log : List LogEvent
  world : World

namespace Startup

variable {World Module Member Object Other Server : Type} [DecidableEq Other] [ToString Other]

/-- What comes of the program once its log is set up: it puts a host together and serves it. -/
def serve (importer : Importer World Module Member Object Other)
    (service : ToolService World Object Server) (settings : Settings) (world : World) :
    Startup World Object Other Server :=
  match Assembly.prepare importer service settings world with
  -- A host that is not complete is not served at all.
  | ⟨.error error, log, after⟩ => ⟨.error (.load error), [], log, after⟩
  | ⟨.ok assembly, log, after⟩ =>
    -- How long this takes, and how it ends, is up to the service.
    let ended := service.run assembly.server after
    ⟨ended.result.mapError .service, [assembly], log ++ ended.log, ended.world⟩

/-- Starts the program in an environment; the first step that fails ends it. -/
def runIn (importer : Importer World Module Member Object Other)
    (service : ToolService World Object Server) (environment : Environment) (world : World) :
    Startup World Object Other Server :=
  match Settings.read environment with
  | .error error => ⟨.error (.settings error), [], [], world⟩
  | .ok settings =>
    match LogLevel.requested settings.logLevel with
    | .error error => ⟨.error (.level error), [], [], world⟩
    | .ok severity =>
      -- From here on the log can be told about what was loaded before a failure.
      let startup := serve importer service settings world
      { startup with log := .setup severity :: startup.log }

/-- The lines that were written to the log. -/
def lines (startup : Startup World Object Other Server) (timestamp : String) : List String :=
  LogSetup.trace {} timestamp startup.log

/-- A process in an environment; hosts in hosts read the environment once more. -/
def process (environment : Environment) (imported : Imported) : Process :=
  match Settings.read environment with
  | .error _ => { imported }
  | .ok settings => match LogLevel.requested settings.logLevel with
    | .error _ => { settings, imported }
    | .ok severity => { settings, severity, imported }

/-- The modules that are imported when the program starts by itself. -/
def importedAtStart : Imported := Imported.bring [] "unified2_mcp.cli.run_server"

/-- Starts the program in an environment, in a process of its own. -/
def run (environment : Environment) (imported : Imported) :
    Startup Imported Made Nothing PlainServer :=
  runIn (process environment imported).importer .plain environment imported

end Startup

end Unified2
