import Unified2.Host
import Unified2.Proofs.Capability.Assembly
import Unified2.Proofs.Capability.Process

/-! A host with both capabilities: each of its tools leaves the other capability alone. -/

namespace Unified2

namespace Host

/-- A host with a reader of pages and a collector. -/
structure Holds (host : Host) (settings : Settings) (reader : PageReader) (collector : Collector) :
    Prop where
  settings_eq : host.settings = settings
  pageReader_eq : host.pageReader? = some reader
  collector_eq : host.collector? = some collector

/-- A host holds a reader of pages exactly if one is registered. -/
theorem pageReader?_eq_some_iff {host : Host} {reader : PageReader} :
    host.pageReader? = some reader ↔
      host.registry.entries.lookup PageReader.name = some (.pageReader reader) := by
  unfold pageReader?
  rcases host.registry.entries.lookup PageReader.name with _ | _ | _ <;> simp

/-- A host holds a collector exactly if one is registered. -/
theorem collector?_eq_some_iff {host : Host} {collector : Collector} :
    host.collector? = some collector ↔
      host.registry.entries.lookup Collector.name = some (.collector collector) := by
  unfold collector?
  rcases host.registry.entries.lookup Collector.name with _ | _ | _ <;> simp

section Calls

variable {host : Host} {settings : Settings} {reader : PageReader} {collector : Collector}

/-- The reader of pages changes alone. -/
theorem Holds.withPageReader (holds : host.Holds settings reader collector)
    (other : PageReader) : (host.withPageReader other).Holds settings other collector := by
  -- What stands under the name of the collector is no reader of pages.
  have pages := pageReader?_eq_some_iff.mp holds.pageReader_eq
  have collects := collector?_eq_some_iff.mp holds.collector_eq
  refine ⟨holds.settings_eq, pageReader?_eq_some_iff.mpr ?_, collector?_eq_some_iff.mpr ?_⟩
  · simp [Host.withPageReader, Registry.lookup_map, pages]
  · simp [Host.withPageReader, Registry.lookup_map, collects]

/-- The collector changes alone. -/
theorem Holds.withCollector (holds : host.Holds settings reader collector)
    (other : Collector) : (host.withCollector other).Holds settings reader other := by
  -- What stands under the name of the reader of pages is no collector.
  have pages := pageReader?_eq_some_iff.mp holds.pageReader_eq
  have collects := collector?_eq_some_iff.mp holds.collector_eq
  refine ⟨holds.settings_eq, pageReader?_eq_some_iff.mpr ?_, collector?_eq_some_iff.mpr ?_⟩
  · simp [Host.withCollector, Registry.lookup_map, pages]
  · simp [Host.withCollector, Registry.lookup_map, collects]

/-- A page that can be read is the answer. -/
theorem Holds.call_readPage (holds : host.Holds settings reader collector) {store : FileStore}
    {path : String} {offset limit : Int} {page : Page}
    (paged : PageReader.page store path offset (settings.clampLimit (some limit)) = .ok page) :
    ∃ after log, host.call store (.readPage path offset limit) =
      (.page page, host.withPageReader after, log) := by
  simp only [call, callReadPage, holds.pageReader_eq, PageReader.read, holds.settings_eq, paged]
  exact ⟨_, _, rfl⟩

/-- A page that is the answer can be read. -/
theorem Holds.of_call_readPage (holds : host.Holds settings reader collector) {store : FileStore}
    {path : String} {offset limit : Int} {page : Page} {after : Host} {log : List LogRecord}
    (answered : host.call store (.readPage path offset limit) = (.page page, after, log)) :
    PageReader.page store path offset (settings.clampLimit (some limit)) = .ok page ∧
      ∃ other, after = host.withPageReader other := by
  cases paged : PageReader.page store path offset (settings.clampLimit (some limit)) with
  | error error =>
    -- A file that cannot be read is answered with its error.
    simp [call, callReadPage, holds.pageReader_eq, PageReader.read, holds.settings_eq, paged]
      at answered
  | ok given =>
    obtain ⟨other, notices, called⟩ := holds.call_readPage paged
    rw [called] at answered
    cases answered
    exact ⟨rfl, other, rfl⟩

/-- A collector that starts tells so. -/
theorem Holds.call_start (holds : host.Holds settings reader collector) {store : FileStore}
    {path : String} {offset : Int} {answer : StartAnswer} {after : Collector}
    {log : List LogRecord} (starts : collector.start store path offset = .ok (answer, after, log)) :
    host.call store (.startCollection Collector.name path offset) =
      (.text answer.message, host.withCollector after, log) := by
  simp [call, callCollector, holds.collector_eq, starts]

/-- Records are fetched from the queue of the collector. -/
theorem Holds.call_fetch (holds : host.Holds settings reader collector) (store : FileStore)
    (limit : Int) :
    let fetched := collector.fetch (some (settings.clampLimit (some limit)))
    host.call store (.fetchRecords limit) =
      (.fetch fetched.1, host.withCollector fetched.2, []) := by
  simp [call, callCollector, holds.collector_eq, holds.settings_eq]

/-- A request to start or stop that names another capability changes nothing. -/
theorem call_of_name_ne (collects : host.collector? = some collector) {name : String}
    (other : name ≠ Collector.name) (store : FileStore) (path : String) (offset : Int) :
    let wrong : ToolAnswer := .text s!"wrong capability, expected {Collector.name}"
    host.call store (.startCollection name path offset) = (wrong, host, []) ∧
      host.call store (.stopCollection name) = (wrong, host, []) := by
  simp [call, callCollector, collects, other]

end Calls

/-- The plain service gives hosts what they rely on. -/
theorem dependable_plain : ToolService.plain.Dependable where
  -- A new server sets the outer default of the log, but tells it nothing.
  creates name world := ⟨{ name }, _, world, rfl, .outer (.outer _) .nil, rfl, rfl⟩
  offers server tool world free :=
    ⟨{ server with tools := server.tools ++ [tool] }, [], world,
      by simp only [ToolService.plain] at free; simp [ToolService.plain, free], .nil, rfl, rfl⟩

/-- A host of the default import paths holds both capabilities. -/
theorem new_default (process : Process) {settings : Settings}
    (fits : (settings.queueSize : Int) < DropQueue.capacityLimit) :
    ∃ log, Host.new process settings Settings.defaultCapabilities =
      (.ok ⟨settings, ⟨[(PageReader.name, .pageReader {}),
        (Collector.name, .collector (newCollector settings))]⟩⟩, log) := by
  obtain ⟨after, loads⟩ := process.exists_loads_default
    (ToolService.plain.create Assembly.serviceName process.imported).world
  obtain ⟨inOrder, order, assembly, log, _, made, -, taken, holds, -⟩ :=
    Assembly.gives_make dependable_plain loads fun _ => fits
  -- The names are in order as they are, so the capabilities are too.
  have inTurn : Text.sorted [PageReader.name, Collector.name] =
      [PageReader.name, Collector.name] := by cbv
  have same : inOrder = [.pageReader, .collector] :=
    List.map_injective_iff.mpr Factory.name_injective (order.names_eq.trans inTurn)
  refine ⟨log, ?_⟩
  simp only [Host.new, made, Except.map, ofAssembly, taken, holds, same]
  rfl

section New

variable {process : Process} {settings : Settings} {paths : List ImportPath} {host : Host}
  {log : List LogEvent}

/-- A new host is what was put together for it. -/
theorem exists_make_of_new (fresh : Host.new process settings paths = (.ok host, log)) :
    ∃ assembly, (Assembly.make process.importer .plain settings paths process.imported).result =
      .ok assembly ∧ ofAssembly assembly = host := by
  have outcome := congrArg Prod.fst fresh
  simp only [Host.new] at outcome
  cases made : (Assembly.make process.importer .plain settings paths process.imported).result with
  | error error => simp [made, Except.map] at outcome
  | ok assembly =>
    simp only [made, Except.map, Except.ok.injEq] at outcome
    exact ⟨assembly, rfl, outcome⟩

/-- A new host goes by the settings it was made with. -/
theorem settings_of_new (fresh : Host.new process settings paths = (.ok host, log)) :
    host.settings = settings := by
  obtain ⟨assembly, made, rfl⟩ := exists_make_of_new fresh
  exact (Assembly.configured_of_make made).1

/-- All that a new host holds are new capabilities that took over its settings. -/
theorem of_mem_new (fresh : Host.new process settings paths = (.ok host, log)) {name : String}
    {capability : Capability} (member : (name, capability) ∈ host.registry.entries) :
    capability = .pageReader {} ∨ capability = .collector (newCollector settings) := by
  obtain ⟨assembly, made, rfl⟩ := exists_make_of_new fresh
  -- What a host holds stands under a text, and is a capability of the program.
  obtain ⟨⟨key, product⟩, isIn, kept⟩ := List.mem_filterMap.mp member
  cases product with
  | other object => cases key <;> cases kept
  | capability it =>
  cases key with
  | other value => cases kept
  | text content =>
    cases kept
    obtain ⟨current, loaded, registered, configured⟩ :=
      (Assembly.configured_of_make made).2 _ _ isIn
    -- Whatever was loaded is new, because only a factory gives a capability.
    obtain ⟨factory, rfl⟩ := Process.exists_make_of_mem_loadAll registered
    have settled := Capability.eq_settled_of_configure configured
    cases factory with
    | pageReader => exact .inl settled
    | collector => exact .inr settled

/-- A new host with both capabilities holds new ones that took over its settings. -/
theorem holds_of_new (fresh : Host.new process settings paths = (.ok host, log))
    (reads : host.pageReader?.isSome) (collects : host.collector?.isSome) :
    host.Holds settings {} (newCollector settings) := by
  -- What a new host holds of a kind is the new one of that kind.
  obtain ⟨reader, pages⟩ := Option.isSome_iff_exists.mp reads
  obtain ⟨collector, collecting⟩ := Option.isSome_iff_exists.mp collects
  have readerThere := of_mem_new fresh (Registry.mem_of_lookup (pageReader?_eq_some_iff.mp pages))
  have collectorThere :=
    of_mem_new fresh (Registry.mem_of_lookup (collector?_eq_some_iff.mp collecting))
  have newReader : reader = {} := by simpa using readerThere
  have new : collector = newCollector settings := by simpa using collectorThere
  exact ⟨settings_of_new fresh, newReader ▸ pages, new ▸ collecting⟩

end New

end Host

end Unified2
