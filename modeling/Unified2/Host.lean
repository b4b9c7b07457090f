import Unified2.Capability.Process

/-! A host: capabilities loaded by import path, and the tools that they and the host offer. -/

namespace Unified2

/-- A host with its capabilities. -/
structure Host where
  settings : Settings
  registry : Registry String Capability

/-- A call of a tool. -/
inductive ToolCall
  | listCapabilities
  | capabilityStatus (name : String)
  | describeRecordTypes
  | readPage (path : String) (offset limit : Int)
  | startCollection (capability path : String) (offset : Int)
  | stopCollection (capability : String)
  | fetchRecords (limit : Int)
  deriving DecidableEq, Repr

/-- The name of the tool that is called. -/
def ToolCall.tool : ToolCall → String
  | listCapabilities => "list_capabilities"
  | capabilityStatus _ => "capability_status"
  | describeRecordTypes => "describe_record_types"
  | readPage _ _ _ => "read_unified2"
  | startCollection _ _ _ => "start_collection"
  | stopCollection _ => "stop_collection"
  | fetchRecords _ => "fetch_records"

/-- What a tool answers. -/
inductive ToolAnswer
  | names (names : List String)
  | status (capability : Capability)
  | descriptions (descriptions : List RecordType.Description)
  | page (page : Page)
  | text (text : String)
  | fetch (fetch : Fetch)
  /-- The host has no such tool. -/
  | noTool (tool : String)
  | registryError (error : RegistryError)
  | fileError (error : FileError)

/-- The value of an answer; a call that failed has none. -/
def ToolAnswer.value? : ToolAnswer → Option (Except NoAddress AnswerValue)
  | names all => some (.ok (.list (all.map .text)))
  | status capability => some (.ok (.fields capability.status))
  | descriptions rows => some (.ok (.list (rows.map fun row => .fields row.fieldList)))
  | page it => some it.answer
  | text it => some (.ok (.text it))
  | fetch it => some it.answer
  | noTool _ | registryError _ | fileError _ => none

namespace Host

/-- The host of what was put together: the capabilities of this program that it holds. -/
def ofAssembly {Object Other Server : Type} (assembly : Assembly Object Other Server) : Host where
  settings := assembly.settings
  registry := ⟨assembly.registry.entries.filterMap fun
    | (.text name, .capability it) => some (name, it)
    | _ => none⟩

/-- A host with the capabilities that import paths lead to, and what the log is told; the log is
told about every capability that was loaded, even if a later one is not. -/
def new (process : Process) (settings : Settings) (paths : List ImportPath) :
    Except LoadError Host × List LogEvent :=
  let report := Assembly.make process.importer .plain settings paths process.imported
  (report.result.map ofAssembly, report.log)

/-- The names of the tools that the host offers, in order. -/
def tools (host : Host) : List String :=
  -- The capabilities offer theirs in turn, and the list is put in order at the end.
  Text.sorted
    (Assembly.coreTools ++ host.registry.entries.flatMap fun (_, capability) => capability.tools)

/-- What the log is told when the host starts to serve. -/
def startNotice (host : Host) : LogEvent :=
  .record (Assembly.startRecord (", ".intercalate host.registry.names))

/-- The reader of pages, if it was loaded. -/
def pageReader? (host : Host) : Option PageReader :=
  -- Anything else could stand under the name only if it were registered first.
  match host.registry.entries.lookup PageReader.name with
  | some (.pageReader reader) => some reader
  | _ => none

/-- The collector, if it was loaded. -/
def collector? (host : Host) : Option Collector :=
  match host.registry.entries.lookup Collector.name with
  | some (.collector collector) => some collector
  | _ => none

/-- The host with its reader of pages in another state. -/
def withPageReader (host : Host) (reader : PageReader) : Host :=
  { host with registry := host.registry.map fun
      | .pageReader _ => .pageReader reader
      | capability => capability }

/-- The host with its collector in another state. -/
def withCollector (host : Host) (collector : Collector) : Host :=
  { host with registry := host.registry.map fun
      | .collector _ => .collector collector
      | capability => capability }

/-- Calls the tool that reads pages. -/
def callReadPage (host : Host) (store : FileStore) (path : String) (offset limit : Int) :
    ToolAnswer × Host × List LogRecord :=
  match host.pageReader? with
  | none => (.noTool "read_unified2", host, [])
  | some reader =>
    -- The limit of the settings is both the default and the most that a caller gets.
    match reader.read store path offset (host.settings.clampLimit (some limit)) with
    -- A page that could not be read was asked for all the same, so the reader has changed.
    | (.error error, reader, log) => (.fileError error, host.withPageReader reader, log)
    | (.ok page, reader, log) => (.page page, host.withPageReader reader, log)

/-- Calls a tool of the collector. A request that names another capability is turned down. -/
def callCollector (host : Host) (store : FileStore) (call : ToolCall) :
    ToolAnswer × Host × List LogRecord :=
  match host.collector? with
  | none => (.noTool call.tool, host, [])
  | some collector =>
    -- The name is asked for in the two tools that change something, and not in the third.
    let wrong : ToolAnswer := .text s!"wrong capability, expected {Collector.name}"
    match call with
    | .startCollection capability path offset =>
      if capability != Collector.name then (wrong, host, [])
      else
        match collector.start store path offset with
        | .error error => (.fileError error, host, [])
        | .ok (answer, collector, log) =>
          (.text answer.message, host.withCollector collector, log)
    | .stopCollection capability =>
      if capability != Collector.name then (wrong, host, [])
      else
        -- The answer comes when the work has ended; here nothing else is served until then.
        let (answer, collector, log) := collector.stop
        (.text answer.message, host.withCollector collector, log)
    | .fetchRecords limit =>
      let (fetch, collector) := collector.fetch (some (host.settings.clampLimit (some limit)))
      (.fetch fetch, host.withCollector collector, [])
    | _ => (.noTool call.tool, host, [])

/-- Calls a tool. -/
def call (host : Host) (store : FileStore) : ToolCall → ToolAnswer × Host × List LogRecord
  -- The tools of the host itself look at what is registered and change none of it.
  | .listCapabilities => (.names host.registry.names, host, [])
  | .capabilityStatus name =>
    match host.registry.find name with
    -- The registry answers for names that it does not have.
    | .error error => (.registryError error, host, [])
    | .ok capability => (.status capability, host, [])
  | .describeRecordTypes => (.descriptions RecordType.descriptions, host, [])
  -- All others belong to a capability, and there is none of them without it.
  | .readPage path offset limit => host.callReadPage store path offset limit
  | request => host.callCollector store request

end Host

end Unified2
