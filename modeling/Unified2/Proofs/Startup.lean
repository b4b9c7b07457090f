import Unified2.Proofs.Host
import Unified2.Startup

/-! The program starts as a whole or not at all: it serves all of the capabilities that are asked
for, or it fails with the first step that does, and the log tells what was loaded before that. -/

namespace Unified2

namespace Startup

open Importer

variable {World Module Member Object Other Server : Type}

/-- Whenever loading comes to an import path of the settings, that leads to a capability of the
program or to a failure. -/
def Resolvable (importer : Importer World Module Member Object Other)
    (service : ToolService World Object Server) (environment : Environment) (world : World) :
    Prop :=
  ∀ settings loaded path later factories current, Settings.read environment = .ok settings →
    settings.capabilities = loaded ++ path :: later →
    Loads importer (service.create Assembly.serviceName world).world loaded factories current →
    ∃ result after, Leads importer path current result after

/-- The environment starts a host with the capabilities that factories make. -/
structure Starts (importer : Importer World Module Member Object Other)
    (service : ToolService World Object Server) (environment : Environment) (world : World)
    (settings : Settings) (severity : Nat) (factories : List Factory) : Prop where
  accepted : Settings.read environment = .ok settings
  level : LogLevel.requested settings.logLevel = .ok severity
  loads : ∃ after, Loads importer (service.create Assembly.serviceName world).world
    settings.capabilities factories after
  /-- If there is a collector, its queue has a size. -/
  fits : .collector ∈ factories → (settings.queueSize : Int) < DropQueue.capacityLimit

/-- What a log that was asked for a severity writes of records that are worth an `INFO`. -/
def written (severity : Nat) (records : List LogRecord) : List LogRecord :=
  if severity ≤ LogLevel.info.severity then records else []

/-- How the program fails. -/
structure Failure where
  error : StartupError
  /-- What the log was set up for, if it came to that. -/
  severity : Option Nat := none
  /-- What is written about the program. -/
  told : List LogRecord := []
  /-- What the step that failed told the log itself. -/
  own : List LogEvent := []

/-- The first step that fails in an environment. -/
inductive Fails (importer : Importer World Module Member Object Other)
    (service : ToolService World Object Server) (environment : Environment) (world : World) :
    Failure → Prop
  | settings {error : SettingsError} (refused : Settings.read environment = .error error) :
    Fails importer service environment world { error := .settings error }
  | level {settings : Settings} {error : LevelError}
    (accepted : Settings.read environment = .ok settings)
    (refused : LogLevel.requested settings.logLevel = .error error) :
    Fails importer service environment world { error := .level error }
  | load {settings : Settings} {severity : Nat} {loaded later : List ImportPath}
    {path : ImportPath} {factories : List Factory} {after : World} {error : LoadError}
    {own : List LogEvent}
    (accepted : Settings.read environment = .ok settings)
    (level : LogLevel.requested settings.logLevel = .ok severity)
    (split : settings.capabilities = loaded ++ path :: later)
    (loads : Loads importer (service.create Assembly.serviceName world).world loaded factories
      after)
    (fails : FailsAfter importer factories path after error own) :
    Fails importer service environment world {
      error := .load error, severity, told := written severity (notices loaded factories), own }
  /-- The settings accept a size that no queue has. -/
  | queue {settings : Settings} {severity : Nat} {factories : List Factory} {after : World}
    (accepted : Settings.read environment = .ok settings)
    (level : LogLevel.requested settings.logLevel = .ok severity)
    (loads : Loads importer (service.create Assembly.serviceName world).world
      settings.capabilities factories after)
    (collects : .collector ∈ factories) (wide : DropQueue.capacityLimit ≤ settings.queueSize) :
    Fails importer service environment world {
      error := .load (.queue .capacityTooWide), severity
      told := written severity (notices settings.capabilities factories) }

/-- The program serves one host, which has all that was asked for, and ends as its service does. -/
structure Serves (service : ToolService World Object Server)
    (startup : Startup World Object Other Server) (settings : Settings)
    (factories : List Factory) : Prop where
  served : ∃ assembly current, startup.served = [assembly] ∧
    startup.outcome = (service.run assembly.server current).result.mapError .service ∧
    assembly.settings = settings ∧
    service.name assembly.server = "unified2_mcp" ∧
    (service.tools assembly.server).Perm
      (Assembly.coreTools ++ factories.flatMap fun factory => (Capability.make factory).tools)

section Lines

variable {severity : Nat} {log : List LogEvent} {records : List LogRecord}

/-- What the program tells a log that was asked for a severity is written, if it is worth it, and
then what others tell it. From outside the program that is nothing. -/
theorem exists_trace_eq (asked : severity ≠ 0) (tells : LogSetup.Tells log records)
    (worth : ∀ record ∈ records, record.level = .info) (own : List LogEvent)
    (timestamp : String) :
    ∃ more, LogSetup.trace {} timestamp (.setup severity :: (log ++ own)) =
        (written severity records).map (LogRecord.line timestamp) ++ more ∧
      ((∀ event ∈ own, event.IsOuter) → more = []) := by
  let setup : LogSetup := LogSetup.heed {} severity
  have consistent : setup.Consistent := fun _ _ _ decided => absurd decided List.not_mem_nil
  -- All records are worth the same, so all of them are written or none.
  have heeded : (records.filter fun record => severity ≤ record.level.severity) =
      written severity records := by
    rw [written]
    by_cases heeds : severity ≤ LogLevel.info.severity
    · rw [if_pos heeds, List.filter_eq_self]
      exact fun record isIn => decide_eq_true (worth record isIn ▸ heeds)
    · rw [if_neg heeds, List.filter_eq_nil_iff]
      exact fun record isIn severe => heeds (worth record isIn ▸ of_decide_eq_true severe)
  -- A log that is set up writes what a part of the root tells it, if it is severe enough.
  have whole {told : List LogEvent} (tells : LogSetup.Tells told records) :
      setup.trace timestamp told = (written severity records).map (LogRecord.line timestamp) := by
    rw [LogSetup.trace_of_tells rfl asked consistent tells, ← heeded]
    rfl
  refine ⟨(log.foldl LogSetup.after setup).trace timestamp own, ?_, fun outside => ?_⟩
  · rw [← whole tells, ← LogSetup.trace_append]
    rfl
  · -- With only events from outside behind it, the same records are told, so no line is left.
    have all := whole (by simpa using tells.append (LogSetup.tells_of_isOuter outside))
    rwa [LogSetup.trace_append, whole tells, List.append_right_eq_self] at all

/-- What the log is told about loading is worth an `INFO`. -/
theorem level_of_mem_notices {paths : List ImportPath} {factories : List Factory} :
    ∀ record ∈ notices paths factories, record.level = .info := by
  intro record isIn
  obtain ⟨_, _, rfl⟩ := List.mem_map.mp isIn
  rfl

end Lines

variable {importer : Importer World Module Member Object Other}
  {service : ToolService World Object Server} {environment : Environment} {world : World}

/-- If each import path leads to a capability or to a failure, the program starts or a step of it
is the first that fails. -/
theorem Resolvable.starts_or_fails
    (resolvable : Resolvable importer service environment world) :
    (∃ settings severity factories,
        Starts importer service environment world settings severity factories) ∨
      ∃ failure, Fails importer service environment world failure := by
  -- The steps are gone through in order, and the first that fails is named.
  cases accepted : Settings.read environment with
  | error error => exact .inr ⟨_, .settings accepted⟩
  | ok settings =>
  cases level : LogLevel.requested settings.logLevel with
  | error error => exact .inr ⟨_, .level accepted level⟩
  | ok severity =>
  obtain ⟨loaded, factories, rest, after, split, loads, outcome⟩ :=
    exists_loads fun loaded path later factories current =>
      resolvable settings loaded path later factories current accepted
  rcases outcome with rfl | ⟨path, later, error, own, rfl, fails⟩
  · rw [List.append_nil] at split
    subst split
    -- All paths were loaded, so only the queue of a collector is left to fail.
    by_cases wide : .collector ∈ factories ∧ DropQueue.capacityLimit ≤ settings.queueSize
    · exact .inr ⟨_, .queue accepted level loads wide.1 wide.2⟩
    · refine .inl ⟨settings, severity, factories, accepted, level, ⟨after, loads⟩, ?_⟩
      exact fun collects => Int.not_le.mp fun large => wide ⟨collects, large⟩
  · exact .inr ⟨_, .load accepted level split loads fails⟩

section Running

variable [DecidableEq Other] [ToString Other]

/-- A program that starts serves the tools of the host and of everything it was asked for. -/
theorem Starts.serves (dependable : service.Dependable) {settings : Settings} {severity : Nat}
    {factories : List Factory}
    (starts : Starts importer service environment world settings severity factories)
    (timestamp : String) :
    let startup := runIn importer service environment world
    Serves service startup settings factories ∧
      (severity ≠ 0 → ∃ more, startup.lines timestamp =
        (written severity (notices settings.capabilities factories ++ [Assembly.startRecord
          (", ".intercalate (Text.sorted (factories.map Factory.name)))])).map
            (LogRecord.line timestamp) ++ more) := by
  obtain ⟨accepted, level, ⟨after, loads⟩, fits⟩ := starts
  obtain ⟨assembly, log, current, prepared, tells, holds⟩ :=
    Assembly.gives_prepare dependable loads fits
  -- From here on the service has the server; how that ends is how the program ends.
  let ended := service.run assembly.server current
  have ran : runIn importer service environment world =
      ⟨ended.result.mapError .service, [assembly], .setup severity :: (log ++ ended.log),
        ended.world⟩ := by
    simp only [runIn, accepted, level, serve, prepared]
    rfl
  rw [ran]
  refine ⟨⟨assembly, current, rfl, rfl, holds⟩, fun asked => ?_⟩
  -- The notice of the start is as severe as those of loading.
  have worth : ∀ record ∈ notices settings.capabilities factories ++ [Assembly.startRecord
      (", ".intercalate (Text.sorted (factories.map Factory.name)))], record.level = .info := by
    intro record isIn
    rcases List.mem_append.mp isIn with isLoaded | isStart
    · exact level_of_mem_notices record isLoaded
    · rw [List.mem_singleton.mp isStart]
      rfl
  obtain ⟨more, written, -⟩ := exists_trace_eq asked tells worth ended.log timestamp
  exact ⟨more, written⟩

/-- If no host is made, that is why the program fails, and the log tells what was loaded. -/
theorem runIn_of_fails_make {settings : Settings} {severity : Nat} {error : LoadError}
    {records : List LogRecord} {own : List LogEvent}
    (accepted : Settings.read environment = .ok settings)
    (level : LogLevel.requested settings.logLevel = .ok severity)
    (fails : (Assembly.make importer service settings settings.capabilities).Fails world records
      error own)
    (worth : ∀ record ∈ records, record.level = .info) (timestamp : String) :
    let startup := runIn importer service environment world
    startup.served = [] ∧ startup.outcome = .error (.load error) ∧
      (severity ≠ 0 → ∃ more, startup.lines timestamp =
          (written severity records).map (LogRecord.line timestamp) ++ more ∧
        ((∀ event ∈ own, event.IsOuter) → more = [])) := by
  -- Without a host there is no notice of the start.
  obtain ⟨log, after, prepared, tells⟩ :
      (Assembly.prepare importer service settings).Fails world records error own := fails.bind
  have ran : runIn importer service environment world =
      ⟨.error (.load error), [], .setup severity :: (log ++ own), after⟩ := by
    simp only [runIn, accepted, level, serve, prepared]
  rw [ran]
  exact ⟨rfl, rfl, fun asked => exists_trace_eq asked tells worth own timestamp⟩

/-- A program whose first step fails ends with the error of that step, and serves nothing. -/
theorem Fails.ends (dependable : service.Dependable) {failure : Failure}
    (fails : Fails importer service environment world failure) (timestamp : String) :
    let startup := runIn importer service environment world
    startup.served = [] ∧ startup.outcome = .error failure.error ∧
      (failure.severity ≠ some 0 → ∃ more, startup.lines timestamp =
          failure.told.map (LogRecord.line timestamp) ++ more ∧
        ((∀ event ∈ failure.own, event.IsOuter) → more = [])) := by
  cases fails with
  -- The first two steps fail before the log is set up, so nothing is written.
  | settings refused => simp [runIn, refused, lines, LogSetup.trace]
  | level accepted refused => simp [runIn, accepted, refused, lines, LogSetup.trace]
  | load accepted level split loads fails =>
    simpa using runIn_of_fails_make accepted level
      (Assembly.fails_make_of_failsAfter dependable split loads fails) level_of_mem_notices
      timestamp
  | queue accepted level loads collects wide =>
    have made := Assembly.fails_make_of_le dependable loads collects wide
    simpa using runIn_of_fails_make accepted level made level_of_mem_notices timestamp

/-- Whatever modules there are, and with any service that hosts can depend on: if each import path
leads to a capability or to a failure, the program serves once exactly if everything that is asked
for can be had, and then all of its tools. Otherwise it fails with the first step that does and
serves nothing, and if the log is set up for `INFO` or less, it tells which capabilities were loaded
before that; what else is written then, the import path that failed has told itself. -/
theorem starts_as_whole (dependable : service.Dependable)
    (resolvable : Resolvable importer service environment world) (timestamp : String) :
    let startup := runIn importer service environment world
    (startup.served.length = 1 ↔ ∃ settings severity factories,
      Starts importer service environment world settings severity factories) ∧
    (∀ settings severity factories,
      Starts importer service environment world settings severity factories →
        Serves service startup settings factories ∧
        (severity ≠ 0 → ∃ more, startup.lines timestamp =
          (written severity (notices settings.capabilities factories ++ [Assembly.startRecord
            (", ".intercalate (Text.sorted (factories.map Factory.name)))])).map
              (LogRecord.line timestamp) ++ more)) ∧
    (startup.served = [] ↔ ∃ failure, Fails importer service environment world failure) ∧
    ∀ failure, Fails importer service environment world failure →
      startup.outcome = .error failure.error ∧
      (failure.severity ≠ some 0 → ∃ more, startup.lines timestamp =
          failure.told.map (LogRecord.line timestamp) ++ more ∧
        ((∀ event ∈ failure.own, event.IsOuter) → more = [])) := by
  intro startup
  have starting := fun settings severity factories
    (starts : Starts importer service environment world settings severity factories) =>
      starts.serves dependable timestamp
  have failing := fun failure (fails : Fails importer service environment world failure) =>
    fails.ends dependable timestamp
  -- The program starts or fails, and it serves only if it starts.
  refine ⟨⟨fun once => ?_, ?_⟩, starting, ⟨fun nothing => ?_, ?_⟩, fun failure fails =>
    (failing failure fails).2⟩
  · rcases resolvable.starts_or_fails with starts | ⟨failure, fails⟩
    · exact starts
    · rw [(failing failure fails).1] at once
      cases once
  · rintro ⟨settings, severity, factories, starts⟩
    obtain ⟨⟨assembly, _, served, -⟩, -⟩ := starting settings severity factories starts
    rw [served, List.length_singleton]
  · rcases resolvable.starts_or_fails with ⟨settings, severity, factories, starts⟩ | fails
    · obtain ⟨⟨assembly, _, served, -⟩, -⟩ := starting settings severity factories starts
      rw [served] at nothing
      cases nothing
    · exact fails
  · rintro ⟨failure, fails⟩
    exact (failing failure fails).1

end Running

/-- Behind a capability that is loaded, and told of, a path that leads to no module ends the
program. -/
theorem starts_as_whole_with_path_to_nowhere :
    let reader := CodeText.ofString "unified2_mcp.capabilities.file_read.capability"
    let nope := CodeText.ofString "nope"
    let environment : Environment := [("U2_LOG_LEVEL", "debug"), ("U2_CAPABILITIES",
      "[\"unified2_mcp.capabilities.file_read.capability\", \"nope\"]")]
    let settings : Settings :=
      { Settings.plain with capabilities := [reader, nope], logLevel := "debug" }
    let startup := run environment importedAtStart
    Settings.read environment = .ok settings ∧
      startup.served = [] ∧
      startup.outcome = .error (.load (ImportError.noModule nope).loadError) ∧
      startup.lines "T" = [LogRecord.line "T" {
        component := "unified2_mcp.core.registry", level := .info
        message :=
          "loaded capability file_read from unified2_mcp.capabilities.file_read.capability" }] := by
  intro reader nope environment settings startup
  let process := process environment importedAtStart
  have accepted : Settings.read environment = .ok settings := by decide +kernel
  have level : LogLevel.requested settings.logLevel = .ok 10 := by decide +kernel
  have parts : ImportPath.split reader = _ := ImportPath.split_of_not_mem reader (by decide)
  have leads (current : Imported) :
      ∃ after, Leads process.importer reader current (.ok .pageReader) after :=
    process.exists_leads_factory parts current
  have resolvable : Resolvable process.importer .plain environment importedAtStart := by
    intro given loaded path later factories current read split _
    -- Only these two paths are ever looked for.
    obtain rfl := Except.ok.inj (accepted.symm.trans read)
    have isIn : path ∈ [reader, nope] := by
      rw [show [reader, nope] = loaded ++ path :: later from split]
      exact List.mem_append_right _ List.mem_cons_self
    rcases List.mem_cons.mp isIn with rfl | behind
    · exact ⟨_, leads current⟩
    · rw [List.mem_singleton.mp behind]
      obtain ⟨after, missed⟩ := process.resolve_nope current
      exact ⟨_, after, .failure missed⟩
  -- Whatever was imported at first, the reader of pages is loaded, and the path behind it fails.
  obtain ⟨between, found⟩ := leads (ToolService.plain.create Assembly.serviceName _).world
  obtain ⟨after, missed⟩ := process.resolve_nope between
  have split : settings.capabilities = [reader] ++ nope :: [] := rfl
  have fails := Fails.load accepted level split (Loads.nil.snoc found List.not_mem_nil)
    (.unresolved missed)
  obtain ⟨-, -, nothing, first⟩ := starts_as_whole Host.dependable_plain resolvable "T"
  obtain ⟨outcome, told⟩ := first _ fails
  obtain ⟨more, written, rfl⟩ : ∃ more, startup.lines "T" = _ ++ more ∧ more = [] := by
    obtain ⟨more, written, quiet⟩ := told (by decide)
    exact ⟨more, written, quiet fun _ isIn => absurd isIn List.not_mem_nil⟩
  exact ⟨accepted, nothing.mpr ⟨_, fails⟩, outcome, written⟩

/-- Settings with a size that no queue has are accepted, and everything is loaded, but nothing
starts. -/
theorem read_accepts_wide_queue :
    let environment : Environment := [("U2_QUEUE_SIZE", "9223372036854775808")]
    let settings : Settings := { Settings.plain with queueSize := 9223372036854775808 }
    let startup := run environment importedAtStart
    Settings.read environment = .ok settings ∧
      LogLevel.requested settings.logLevel = .ok LogLevel.info.severity ∧
      (∃ after, Loads (process environment importedAtStart).importer
        (ToolService.plain.create Assembly.serviceName importedAtStart).world
        settings.capabilities [.pageReader, .collector] after) ∧
      startup.served = [] ∧ startup.outcome = .error (.load (.queue .capacityTooWide)) := by
  intro environment settings startup
  have accepted : Settings.read environment = .ok settings := by decide +kernel
  have level : LogLevel.requested settings.logLevel = .ok LogLevel.info.severity := by
    decide +kernel
  obtain ⟨after, loads⟩ := (process environment importedAtStart).exists_loads_default
    (ToolService.plain.create Assembly.serviceName importedAtStart).world
  have fails := Fails.queue accepted level loads (by decide) (by decide)
  obtain ⟨served, outcome, -⟩ := fails.ends Host.dependable_plain ""
  exact ⟨accepted, level, ⟨after, loads⟩, served, outcome⟩

end Startup

end Unified2
