import Unified2.Proofs.Capability.Loading
import Unified2.Proofs.Log.Told

/-! Import paths that each lead to a capability of this program or to a failure: those before the
first that fails are loaded, and the log tells of them and of no others. -/

namespace Unified2

/-- The name of the capability that a factory makes. -/
def Factory.name (factory : Factory) : String := (Capability.make factory).name

/-- Different capabilities have different names. -/
theorem Factory.name_injective : Function.Injective Factory.name := by
  intro left right same
  cases left <;> cases right
  · rfl
  · exact absurd same (by decide)
  · exact absurd same (by decide)
  · rfl

namespace Importer

variable {World Module Member Object Other : Type}

/-- Where an import path leads in a world: to a new capability, or to a failure. -/
inductive Leads (importer : Importer World Module Member Object Other) (path : ImportPath)
    (world : World) : Except LoadError Factory → World → Prop
  /-- The log may be told things meanwhile, but none about the program. -/
  | factory {factory : Factory} {log : List LogEvent} {after : World}
    (found : importer.resolve path world = ⟨.ok (.capability (.make factory)), log, after⟩)
    (outside : ∀ event ∈ log, event.IsOuter) : Leads importer path world (.ok factory) after
  | failure {error : LoadError} {log : List LogEvent} {after : World}
    (fails : importer.resolve path world = ⟨.error error, log, after⟩) :
    Leads importer path world (.error error) after

/-- Import paths lead to different capabilities, one after the other. -/
inductive Loads (importer : Importer World Module Member Object Other) (world : World) :
    List ImportPath → List Factory → World → Prop
  | nil : Loads importer world [] [] world
  | snoc {paths : List ImportPath} {factories : List Factory} {path : ImportPath}
    {factory : Factory} {between after : World}
    (before : Loads importer world paths factories between)
    (leads : Leads importer path between (.ok factory) after) (free : factory ∉ factories) :
    Loads importer world (paths ++ [path]) (factories ++ [factory]) after

/-- Why an import path fails behind others: it leads to a failure, or to a capability that is there
already. What fails may tell the log things of its own. -/
inductive FailsAfter (importer : Importer World Module Member Object Other)
    (factories : List Factory) (path : ImportPath) (world : World) :
    LoadError → List LogEvent → Prop
  | unresolved {error : LoadError} {own : List LogEvent} {after : World}
    (fails : importer.resolve path world = ⟨.error error, own, after⟩) :
    FailsAfter importer factories path world error own
  | duplicate {factory : Factory} {after : World}
    (leads : Leads importer path world (.ok factory) after) (taken : factory ∈ factories) :
    FailsAfter importer factories path world (.registry (.duplicate factory.name)) []

/-- The registry of what factories make. -/
def registryOf (Object Other : Type) (factories : List Factory) : Loaded Object Other :=
  ⟨factories.map fun factory => (.text factory.name, .capability (.make factory))⟩

/-- What the log is told about import paths that were loaded. -/
def notices (paths : List ImportPath) (factories : List Factory) : List LogRecord :=
  (paths.zip factories).map fun (path, factory) => {
    component, level := .info
    message := s!"loaded capability {factory.name} from {path.shown}" }

variable {importer : Importer World Module Member Object Other} {world after : World}
  {path : ImportPath} {paths rest : List ImportPath} {factories : List Factory} {factory : Factory}

/-- Loading tells the log as a part of the root. -/
theorem isPart_component : LogSetup.IsPart component :=
  LogSetup.isPart_of_toList (show _ = _ ++ '.' :: "core.registry".toList by decide) (by decide)

/-- The names are those of the capabilities. -/
theorem keys_registryOf (factories : List Factory) :
    (registryOf Object Other factories).keys = (factories.map Factory.name).map .text := by
  simp [Registry.keys, registryOf, Function.comp_def]

/-- A name is taken if its capability is there. -/
theorem name_mem_registryOf :
    .text factory.name ∈ (registryOf Object Other factories).keys ↔ factory ∈ factories := by
  rw [keys_registryOf, List.mem_map_of_injective (fun _ _ => ObjectName.text.inj),
    List.mem_map_of_injective Factory.name_injective]

/-- There are as many capabilities as paths that lead to them. -/
theorem Loads.length_eq (loads : Loads importer world paths factories after) :
    paths.length = factories.length := by
  induction loads with
  | nil => rfl
  | snoc _ _ _ ih => simp [ih]

/-- The capabilities that paths lead to are different ones. -/
theorem Loads.nodup (loads : Loads importer world paths factories after) : factories.Nodup := by
  induction loads with
  | nil => exact List.nodup_nil
  | snoc _ _ free ih =>
    -- The last capability is free, so it is none of those before it.
    refine List.nodup_append.mpr ⟨ih, List.nodup_singleton _, ?_⟩
    intro other there last isLast same
    rw [List.mem_singleton.mp isLast] at same
    exact free (same ▸ there)

/-- The last of the capabilities is told of behind the others. -/
theorem Loads.notices_append (loads : Loads importer world paths factories after) :
    notices (paths ++ [path]) (factories ++ [factory]) =
      notices paths factories ++ notices [path] [factory] := by
  rw [notices, List.zip_append loads.length_eq, List.map_append]
  rfl

/-- If each path that loading comes to leads to a capability or to a failure, those before the first
that fails are loaded. -/
theorem exists_loads
    (each : ∀ loaded path later factories current, paths = loaded ++ path :: later →
      Loads importer world loaded factories current →
      ∃ result after, Leads importer path current result after) :
    ∃ loaded factories rest after, paths = loaded ++ rest ∧
      Loads importer world loaded factories after ∧
      (rest = [] ∨ ∃ path later error own, rest = path :: later ∧
        FailsAfter importer factories path after error own) := by
  -- The paths are taken off at the end, so that the last one comes behind all that were loaded.
  induction paths using List.reverseRecOn with
  | nil => exact ⟨[], [], [], world, rfl, .nil, .inl rfl⟩
  | append_singleton paths last ih =>
    obtain ⟨loaded, factories, rest, after, rfl, loads, outcome⟩ :=
      -- What holds of each path of the whole list holds of those before the last.
      ih fun loaded path later factories current split =>
        each loaded path (later ++ [last]) factories current (by simp [split])
    rcases outcome with rfl | ⟨path, later, error, own, rfl, fails⟩
    · -- All of the others are loaded, so loading comes to the last one, which leads to a failure,
      -- to a capability that is there already, or to one that is not.
      obtain ⟨error | factory, next, leads⟩ := each loaded last [] factories after (by simp) loads
      · cases leads with
        | failure fails => exact ⟨loaded, factories, [last], after, by simp, loads,
            .inr ⟨last, [], error, _, rfl, .unresolved fails⟩⟩
      · by_cases taken : factory ∈ factories
        · exact ⟨loaded, factories, [last], after, by simp, loads,
            .inr ⟨last, [], _, [], rfl, .duplicate leads taken⟩⟩
        · exact ⟨loaded ++ [last], factories ++ [factory], [], next, by simp,
            .snoc loads leads taken, .inl rfl⟩
    · -- One of the others fails already, so the last path is not even looked for.
      exact ⟨loaded, factories, path :: later ++ [last], after, by simp, loads,
        .inr ⟨path, later ++ [last], error, own, rfl, fails⟩⟩

variable [DecidableEq Other] [ToString Other]

/-- Every capability is found under its name. -/
theorem find_registryOf (isIn : factory ∈ factories) :
    (registryOf Object Other factories).find (.text factory.name) =
      .ok (.capability (.make factory)) := by
  -- No other capability has the name, so none is found before.
  rw [Registry.find_eq_ok_iff, registryOf]
  induction factories with
  | nil => cases isIn
  | cons first rest ih =>
    rw [List.map_cons, List.lookup_cons]
    by_cases same : factory = first
    · simp [same]
    · have other : ((.text factory.name : ObjectName Other) == .text first.name) = false :=
        beq_eq_false_iff_ne.mpr fun equal =>
          same (Factory.name_injective (ObjectName.text.inj equal))
      rw [other]
      exact ih (List.mem_of_ne_of_mem same isIn)

/-- A path to a capability that is not there yet is loaded behind the others. -/
theorem Leads.load (leads : Leads importer path world (.ok factory) after)
    (free : factory ∉ factories) :
    ∃ log, LogSetup.Tells log (notices [path] [factory]) ∧
      importer.load (registryOf Object Other factories) path world =
        ⟨.ok (.text factory.name, registryOf Object Other (factories ++ [factory])), log,
          after⟩ := by
  cases leads with
  | @factory _ log _ found outside =>
    have named : importer.productName (.capability (.make factory)) =
      .ok (.text factory.name) := rfl
    refine ⟨log ++ [.record (notice (.text factory.name : ObjectName Other) path)],
      (LogSetup.tells_of_isOuter outside).append (LogSetup.tells_singleton isPart_component), ?_⟩
    -- Names differ where capabilities do, so its name is free as well.
    have unnamed : .text factory.name ∉ (registryOf Object Other factories).keys :=
      fun taken => free (name_mem_registryOf.mp taken)
    rw [load_eq, found]
    simp only [register_eq, named, if_neg unnamed]
    simp [registryOf]

/-- A path that fails behind others changes nothing that is registered, and the program tells the
log nothing. -/
theorem FailsAfter.load {error : LoadError} {own : List LogEvent}
    (fails : FailsAfter importer factories path world error own) :
    ∃ log last, LogSetup.Tells log [] ∧
      importer.load (registryOf Object Other factories) path world =
        ⟨.error error, log ++ own, last⟩ := by
  cases fails with
  -- All that is told comes from the step that failed.
  | unresolved fails => exact ⟨[], _, .nil, by rw [load_eq, fails, List.nil_append]⟩
  | @duplicate factory after leads taken =>
    cases leads with
    | @factory _ log _ found outside =>
      have named : importer.productName (.capability (.make factory)) =
        .ok (.text factory.name) := rfl
      -- The capability was made, but its name is taken, so nothing is told of it.
      have isTaken : .text factory.name ∈ (registryOf Object Other factories).keys :=
        name_mem_registryOf.mpr taken
      refine ⟨log, after, LogSetup.tells_of_isOuter outside, ?_⟩
      rw [load_eq, found, List.append_nil]
      simp only [register_eq, named, if_pos isTaken]
      rfl

/-- Paths to different capabilities are loaded before the others. -/
theorem Loads.loadAll_append (loads : Loads importer world paths factories after)
    (rest : List ImportPath) :
    ∃ log, LogSetup.Tells log (notices paths factories) ∧
      importer.loadAll {} (paths ++ rest) world =
        let loading := importer.loadAll (registryOf Object Other factories) rest after
        { loading with log := log ++ loading.log } := by
  -- Each capability joins those before it, and the others are loaded behind it.
  induction loads generalizing rest with
  | nil => exact ⟨[], .nil, rfl⟩
  | @snoc paths factories path factory between after before leads free ih =>
    -- By induction the last path stands in front of the others, to be loaded next.
    obtain ⟨log, tells, loading⟩ := ih (path :: rest)
    obtain ⟨more, tellsMore, loaded⟩ := leads.load free
    refine ⟨log ++ more, ?_, ?_⟩
    · rw [before.notices_append]
      exact tells.append tellsMore
    · rw [List.append_assoc, List.singleton_append, loading, loadAll, loaded]
      simp

/-- Paths to different capabilities are all loaded. -/
theorem Loads.loadAll (loads : Loads importer world paths factories after) :
    ∃ log, LogSetup.Tells log (notices paths factories) ∧
      importer.loadAll {} paths world = ⟨none, registryOf Object Other factories, log, after⟩ := by
  obtain ⟨log, tells, loading⟩ := loads.loadAll_append []
  exact ⟨log, tells, by simpa [Importer.loadAll] using loading⟩

/-- Paths to different capabilities are loaded up to one that fails behind them. -/
theorem Loads.loadAll_of_failsAfter (loads : Loads importer world paths factories after)
    {error : LoadError} {own : List LogEvent}
    (fails : FailsAfter importer factories path after error own) (rest : List ImportPath) :
    ∃ log last, LogSetup.Tells log (notices paths factories) ∧
      importer.loadAll {} (paths ++ path :: rest) world =
        ⟨some error, registryOf Object Other factories, log ++ own, last⟩ := by
  obtain ⟨log, tells, loading⟩ := loads.loadAll_append (path :: rest)
  obtain ⟨more, last, tellsMore, stops⟩ := fails.load
  refine ⟨log ++ more, last, by simpa using tells.append tellsMore, ?_⟩
  rw [loading, Importer.loadAll, stops, List.append_assoc]

end Importer

end Unified2
