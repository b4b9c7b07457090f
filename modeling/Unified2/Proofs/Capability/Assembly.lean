import Unified2.Proofs.Capability.Configuration

/-! A host is put together as a whole: with everything that was loaded and all of its tools, or not
at all. -/

namespace Unified2

variable {World Module Member Object Other Server : Type}

/-- What hosts rely on in a service: a server comes up under its name and without tools, and takes
every tool that it does not have yet. None of that is told the log on behalf of the program. -/
structure ToolService.Dependable (service : ToolService World Object Server) : Prop where
  creates : ∀ name world, (service.create name).Gives world [] fun server _ =>
    service.name server = name ∧ service.tools server = []
  offers : ∀ server tool world, tool ∉ service.tools server →
    (service.offer server tool).Gives world [] fun other _ =>
      service.name other = service.name server ∧
        service.tools other = service.tools server ++ [tool]

namespace Assembly

open Importer

variable {service : ToolService World Object Server} {settings : Settings}

/-- A server takes tools that it does not have yet, one after the other. -/
theorem gives_offerAll (dependable : service.Dependable) {server : Server} {tools : List String}
    (differ : (service.tools server ++ tools).Nodup) (world : World) :
    (offerAll service server tools).Gives world [] fun other _ =>
      service.name other = service.name server ∧
        service.tools other = service.tools server ++ tools := by
  -- Each tool joins those that the server has, so the next one has to differ from it too.
  induction tools generalizing server world with
  | nil => exact Errand.gives_pure ⟨rfl, (List.append_nil _).symm⟩
  | cons tool rest ih =>
    have free : tool ∉ service.tools server := fun there =>
      List.disjoint_of_nodup_append differ there List.mem_cons_self
    refine (dependable.offers server tool world free).bind fun other after ⟨name, tools⟩ => ?_
    rw [List.append_cons, ← tools] at differ
    refine (ih differ after).mono fun last _ ⟨lastName, lastTools⟩ => ⟨lastName.trans name, ?_⟩
    rw [lastTools, tools, List.append_assoc, List.singleton_append]

/-- A new capability takes over settings whose queue has a size, and offers its tools. -/
theorem gives_enlist (dependable : service.Dependable) {server : Server} {factory : Factory}
    (fits : factory = .collector → (settings.queueSize : Int) < DropQueue.capacityLimit)
    (differ : (service.tools server ++ (Capability.make factory).tools).Nodup) (world : World) :
    (enlist service settings server (.capability (.make factory))).Gives world []
      fun enlisted _ => enlisted.1 = .capability (.settled settings factory) ∧
        service.name enlisted.2 = service.name server ∧
        service.tools enlisted.2 = service.tools server ++ (Capability.make factory).tools := by
  -- Tools are offered by what took over the settings, which has the same ones.
  rw [← Capability.tools_settled settings] at differ ⊢
  simp only [enlist, Capability.configure_make fits, Except.mapError, Errand.lift_ok_bind]
  refine (gives_offerAll dependable differ world).bind fun other _ ⟨name, tools⟩ => ?_
  exact Errand.gives_pure ⟨rfl, name, tools⟩

/-- A collector cannot take over settings whose queue has no size. -/
theorem fails_enlist (wide : DropQueue.capacityLimit ≤ settings.queueSize) (server : Server)
    (world : World) :
    (enlist service settings server (.capability (.make .collector))).Fails world []
      (.queue .capacityTooWide) [] := by
  simp only [enlist, Capability.configure_collector_of_le wide, Except.mapError,
    Errand.lift_error_bind]
  exact ⟨[], world, rfl, .nil⟩

variable {factories : List Factory}

/-- The registry of what factories make, once it took over settings. -/
def settledRegistry (Object Other : Type) (settings : Settings) (factories : List Factory) :
    Loaded Object Other :=
  ⟨factories.map fun factory => (.text factory.name, .capability (.settled settings factory))⟩

/-- Factories are in order if the names of what they make are. -/
structure InOrder (inOrder factories : List Factory) : Prop where
  perm : inOrder.Perm factories
  names_eq : inOrder.map Factory.name = Text.sorted (factories.map Factory.name)

/-- Factories can be put in order. -/
theorem exists_inOrder (factories : List Factory) : ∃ inOrder, InOrder inOrder factories := by
  -- Sorting the names sorts the factories that they are the names of.
  have composed := congrFun₂ (List.eq_map_comp_perm Factory.name)
    (Text.sorted (factories.map Factory.name)) factories
  obtain ⟨inOrder, named, perm⟩ := composed.mpr (Text.sorted_perm _)
  exact ⟨inOrder, perm, named.symm⟩

/-- The names of what factories make are listed in order. -/
theorem InOrder.listed_eq {inOrder : List Factory} (order : InOrder inOrder factories)
    (importer : Importer World Module Member Object Other) :
    importer.listed (registryOf Object Other factories) =
      .ok ((inOrder.map Factory.name).map .text) := by
  rw [listed_of_keys_eq (keys_registryOf factories), order.names_eq]

/-- A host tells the log which capabilities it has, in the order of their names. -/
theorem startNotice_eq (importer : Importer World Module Member Object Other)
    {assembly : Assembly Object Other Server} {inOrder : List Factory}
    (perm : inOrder.Perm factories)
    (holds : assembly.registry = settledRegistry Object Other settings inOrder) :
    assembly.startNotice importer =
      .ok (startRecord (", ".intercalate (Text.sorted (factories.map Factory.name)))) := by
  have keys : assembly.registry.keys = (inOrder.map Factory.name).map .text := by
    rw [holds]
    simp [Registry.keys, settledRegistry, Function.comp_def]
  rw [startNotice, listed_of_keys_eq keys, Text.sorted_congr (perm.map _)]
  simp [joined, textsFrom_map, bind, Except.bind, pure, Except.pure]

section Enlisting

variable [DecidableEq Other] [ToString Other] {registry : Loaded Object Other}

/-- New capabilities take over settings one after the other, and offer their tools. -/
theorem gives_enlistAll (dependable : service.Dependable) {server : Server}
    (found : ∀ factory ∈ factories,
      registry.find (.text factory.name) = .ok (.capability (.make factory)))
    (fits : .collector ∈ factories → (settings.queueSize : Int) < DropQueue.capacityLimit)
    (differ : (service.tools server ++
      factories.flatMap fun factory => (Capability.make factory).tools).Nodup) (world : World) :
    (enlistAll service settings registry server ((factories.map Factory.name).map .text)).Gives
      world [] fun enlisted _ =>
        enlisted.1 = (settledRegistry Object Other settings factories).entries ∧
        service.name enlisted.2 = service.name server ∧
        service.tools enlisted.2 = service.tools server ++
          factories.flatMap fun factory => (Capability.make factory).tools := by
  induction factories generalizing server world with
  | nil => exact Errand.gives_pure ⟨rfl, rfl, (List.append_nil _).symm⟩
  | cons factory rest ih =>
    rw [List.flatMap_cons, ← List.append_assoc] at differ
    have ownTools := (List.nodup_append.mp differ).1
    simp only [List.map_cons, enlistAll, found factory List.mem_cons_self, Except.mapError,
      Errand.lift_ok_bind]
    refine (gives_enlist dependable (fun same => fits (same ▸ List.mem_cons_self)) ownTools
      world).bind fun (product, other) after ⟨same, name, tools⟩ => ?_
    simp only at same name tools
    rw [← tools] at differ
    refine (ih (fun factory isIn => found factory (List.mem_cons_of_mem _ isIn))
      (fun isIn => fits (List.mem_cons_of_mem _ isIn)) differ after).bind
        fun (entries, last) _ ⟨others, lastName, lastTools⟩ => ?_
    refine Errand.gives_pure ⟨?_, lastName.trans name, ?_⟩
    · simp only at others
      rw [same, others]
      rfl
    · rw [lastTools, tools, List.flatMap_cons, List.append_assoc]

/-- If the queue has no size, a collector keeps all of them from taking over the settings. -/
theorem fails_enlistAll (dependable : service.Dependable) {server : Server}
    (found : ∀ factory ∈ factories,
      registry.find (.text factory.name) = .ok (.capability (.make factory)))
    (collects : .collector ∈ factories) (wide : DropQueue.capacityLimit ≤ settings.queueSize)
    (differ : (service.tools server ++
      factories.flatMap fun factory => (Capability.make factory).tools).Nodup) (world : World) :
    (enlistAll service settings registry server ((factories.map Factory.name).map .text)).Fails
      world [] (.queue .capacityTooWide) [] := by
  induction factories generalizing server world with
  | nil => cases collects
  | cons factory rest ih =>
    rw [List.flatMap_cons, ← List.append_assoc] at differ
    have ownTools := (List.nodup_append.mp differ).1
    simp only [List.map_cons, enlistAll, found factory List.mem_cons_self, Except.mapError,
      Errand.lift_ok_bind]
    cases factory with
    | collector => exact (fails_enlist wide server world).bind
    | pageReader =>
      -- A reader of pages takes over whatever it is given, so the collector is one of the others.
      refine (gives_enlist dependable (fun same => by cases same) ownTools world).bind_fails
        fun (product, other) after ⟨_, _, tools⟩ => ?_
      simp only at tools
      rw [← tools] at differ
      exact (ih (fun factory isIn => found factory (List.mem_cons_of_mem _ isIn))
        (List.mem_of_ne_of_mem (by decide) collects) differ after).bind

end Enlisting

section Inverting

variable [DecidableEq Other] [ToString Other]

/-- What was enlisted as a capability took over the settings. -/
theorem configured_of_enlist {server other : Server} {product : Product Object}
    {capability : Capability} {world : World}
    (enlisted : (enlist service settings server product world).result =
      .ok (.capability capability, other)) :
    ∃ loaded : Capability, product = .capability loaded ∧
      loaded.configure settings = .ok capability := by
  cases product with
  -- What is no capability is asked to register its tools, and stays what it is.
  | other object =>
    obtain ⟨_, _, _, -, given⟩ := Errand.exists_of_bind_ok enlisted
    cases given
  | capability loaded =>
    obtain ⟨taken, _, _, configured, rest⟩ := Errand.exists_of_bind_ok enlisted
    obtain ⟨_, _, _, -, given⟩ := Errand.exists_of_bind_ok rest
    cases given
    exact ⟨loaded, rfl, Errand.eq_ok_of_lift_mapError configured⟩

/-- What was enlisted under a name as a capability was registered, and took over the settings. -/
theorem configured_of_mem_enlistAll {registry : Loaded Object Other} {server other : Server}
    {names : List (ObjectName Other)} {world : World}
    {entries : List (ObjectName Other × Product Object)}
    (enlisted : (enlistAll service settings registry server names world).result =
      .ok (entries, other))
    {name : ObjectName Other} {capability : Capability}
    (isIn : (name, .capability capability) ∈ entries) :
    ∃ loaded : Capability, (name, .capability loaded) ∈ registry.entries ∧
      loaded.configure settings = .ok capability := by
  -- An entry is that of the first name, or of one behind it.
  induction names generalizing server entries world other with
  | nil =>
    cases enlisted
    cases isIn
  | cons first rest ih =>
    obtain ⟨product, _, _, looked, enlisted⟩ := Errand.exists_of_bind_ok enlisted
    obtain ⟨⟨taken, next⟩, _, _, enlistedFirst, enlisted⟩ := Errand.exists_of_bind_ok enlisted
    obtain ⟨⟨others, last⟩, _, _, enlistedRest, given⟩ := Errand.exists_of_bind_ok enlisted
    cases given
    rcases List.mem_cons.mp isIn with isFirst | isLater
    · cases isFirst
      obtain ⟨loaded, rfl, configured⟩ :=
        configured_of_enlist (congrArg Report.result enlistedFirst)
      have found := Registry.find_eq_ok_iff.mp (Errand.eq_ok_of_lift_mapError looked)
      exact ⟨loaded, Registry.mem_of_lookup found, configured⟩
    · exact ih (congrArg Report.result enlistedRest) isLater

/-- A host has the settings that it was made with, and each of its capabilities was loaded and took
them over. -/
theorem configured_of_make {importer : Importer World Module Member Object Other}
    {paths : List ImportPath} {world : World} {assembly : Assembly Object Other Server}
    (made : (make importer service settings paths world).result = .ok assembly) :
    assembly.settings = settings ∧
      ∀ name capability, (name, .capability capability) ∈ assembly.registry.entries →
        ∃ current, ∃ loaded : Capability,
          (name, .capability loaded) ∈ (importer.loadAll {} paths current).registry.entries ∧
            loaded.configure settings = .ok capability := by
  obtain ⟨server, _, current, -, made⟩ := Errand.exists_of_bind_ok made
  -- The server comes up, paths are loaded, their names listed, and what they name enlisted.
  obtain ⟨registry, _, _, loading, made⟩ := Errand.exists_of_bind_ok made
  obtain ⟨names, _, _, -, made⟩ := Errand.exists_of_bind_ok made
  obtain ⟨⟨entries, full⟩, _, _, enlisted, made⟩ := Errand.exists_of_bind_ok made
  obtain ⟨whole, _, _, -, given⟩ := Errand.exists_of_bind_ok made
  cases given
  refine ⟨rfl, fun name capability isIn => ?_⟩
  obtain ⟨loaded, registered, configured⟩ :=
    configured_of_mem_enlistAll (congrArg Report.result enlisted) isIn
  refine ⟨current, loaded, ?_, configured⟩
  -- Only loading that did not fail gives a registry, and that is the whole of it.
  have given := congrArg Report.result loading
  simp only [Loading.report] at given
  cases failed : (importer.loadAll {} paths current).failure with
  | some error => simp [failed] at given
  | none =>
    simp only [failed, Except.ok.injEq] at given
    rwa [given]

end Inverting

section Making

variable [DecidableEq Other] [ToString Other]
  {importer : Importer World Module Member Object Other} {world after : World}
  {paths : List ImportPath}

/-- Paths to different capabilities are all loaded, behind the server that came up before. -/
theorem gives_loadAll (loads : Loads importer world paths factories after) :
    Errand.Gives (fun world => (importer.loadAll {} paths world).report) world
      (notices paths factories) fun registry _ => registry = registryOf Object Other factories := by
  obtain ⟨log, tells, loading⟩ := loads.loadAll
  exact ⟨_, log, after, by simp only [loading, Loading.report], tells, rfl⟩

/-- The tools of different capabilities and of the host itself are all different. -/
theorem nodup_allTools (differ : factories.Nodup) :
    ((factories.flatMap fun factory => (Capability.make factory).tools) ++ coreTools).Nodup := by
  -- No capability has a tool of the host's.
  have apart (factory : Factory) : ∀ tool ∈ (Capability.make factory).tools, tool ∉ coreTools := by
    cases factory <;> decide
  refine List.nodup_append.mpr ⟨Capability.nodup_tools differ, by decide, ?_⟩
  rintro tool isOne core isCore rfl
  obtain ⟨factory, -, offers⟩ := List.mem_flatMap.mp isOne
  exact apart factory tool offers isCore

/-- What paths to different capabilities lead to becomes a host as a whole, if the settings have a
size for the queue where they need one. -/
theorem gives_make (dependable : service.Dependable)
    (loads : Loads importer (service.create serviceName world).world paths factories after)
    (fits : .collector ∈ factories → (settings.queueSize : Int) < DropQueue.capacityLimit) :
    ∃ inOrder : List Factory, InOrder inOrder factories ∧
      (make importer service settings paths).Gives world (notices paths factories)
        fun assembly _ => assembly.settings = settings ∧
          assembly.registry = settledRegistry Object Other settings inOrder ∧
          service.name assembly.server = serviceName ∧
          service.tools assembly.server =
            (inOrder.flatMap fun factory => (Capability.make factory).tools) ++ coreTools := by
  obtain ⟨inOrder, order⟩ := exists_inOrder factories
  refine ⟨inOrder, order, ?_⟩
  have perm := order.perm
  have differ := nodup_allTools (perm.nodup_iff.mpr loads.nodup)
  refine (dependable.creates serviceName world).and_world_eq.bind
    fun server between ⟨⟨name, fresh⟩, same⟩ => ?_
  subst same
  refine (gives_loadAll loads).bind_quiet fun registry next same => ?_
  subst same
  simp only [order.listed_eq, Errand.lift_ok_bind]
  refine (gives_enlistAll dependable (fun factory isIn => find_registryOf (perm.mem_iff.mp isIn))
    (fun isIn => fits (perm.mem_iff.mp isIn)) ?_ next).bind
      fun (entries, full) last ⟨same, fullName, fullTools⟩ => ?_
  · -- The server came up without tools, so only those of the capabilities have to differ.
    rw [fresh]
    exact (List.nodup_append.mp differ).1
  · -- The tools of the host itself are offered to a server that has those of the capabilities.
    simp only [fresh, List.nil_append] at same fullName fullTools
    rw [← fullTools] at differ
    refine (gives_offerAll dependable differ last).bind fun whole _ ⟨wholeName, wholeTools⟩ => ?_
    refine Errand.gives_pure ⟨rfl, ?_, ?_, ?_⟩
    · rw [same]
    · rw [wholeName, fullName, name]
    · rw [wholeTools, fullTools]

/-- A host tells the log as a part of the root. -/
theorem isPart_component : LogSetup.IsPart component :=
  LogSetup.isPart_of_toList (show _ = _ ++ '.' :: "core.server".toList by decide) (by decide)

/-- A host that is made tells the log which capabilities it has, before it is served. -/
theorem gives_prepare (dependable : service.Dependable)
    (loads : Loads importer (service.create serviceName world).world settings.capabilities
      factories after)
    (fits : .collector ∈ factories → (settings.queueSize : Int) < DropQueue.capacityLimit) :
    (prepare importer service settings).Gives world
      (notices settings.capabilities factories ++
        [startRecord (", ".intercalate (Text.sorted (factories.map Factory.name)))])
      fun assembly _ => assembly.settings = settings ∧
        service.name assembly.server = serviceName ∧
        (service.tools assembly.server).Perm
          (coreTools ++ factories.flatMap fun factory => (Capability.make factory).tools) := by
  obtain ⟨inOrder, order, made⟩ := gives_make dependable loads fits
  refine made.bind fun assembly between ⟨taken, holds, name, tools⟩ => ?_
  -- All names are texts, so listing them for the log cannot fail.
  simp only [startNotice_eq importer order.perm holds, Errand.lift_ok_bind]
  refine ⟨assembly, [.record _], between, rfl, LogSetup.tells_singleton isPart_component, taken,
    name, ?_⟩
  -- The tools of the capabilities come first, in the order of the names.
  rw [tools]
  exact List.perm_append_comm.trans ((order.perm.flatMap_right _).append_left _)

/-- If an import path fails behind others, no host is made, and the log tells of the others. -/
theorem fails_make_of_failsAfter (dependable : service.Dependable)
    {loaded later : List ImportPath} {path : ImportPath} {error : LoadError} {own : List LogEvent}
    (split : paths = loaded ++ path :: later)
    (loads : Loads importer (service.create serviceName world).world loaded factories after)
    (fails : FailsAfter importer factories path after error own) :
    (make importer service settings paths).Fails world (notices loaded factories) error own := by
  subst split
  refine (dependable.creates serviceName world).and_world_eq.bind_fails
    fun server between ⟨_, same⟩ => ?_
  subst same
  obtain ⟨log, last, tells, loading⟩ :=
    loads.loadAll_of_failsAfter fails later
  -- Loading reports its failure, and nothing of the host is made behind it.
  exact Errand.Fails.bind ⟨log, last, by simp only [loading, Loading.report], tells⟩

/-- If the queue of a collector has no size, no host is made, and the log tells of everything. -/
theorem fails_make_of_le (dependable : service.Dependable)
    (loads : Loads importer (service.create serviceName world).world paths factories after)
    (collects : .collector ∈ factories) (wide : DropQueue.capacityLimit ≤ settings.queueSize) :
    (make importer service settings paths).Fails world (notices paths factories)
      (.queue .capacityTooWide) [] := by
  obtain ⟨inOrder, order⟩ := exists_inOrder factories
  have perm := order.perm
  have differ := Capability.nodup_tools (perm.nodup_iff.mpr loads.nodup)
  refine (dependable.creates serviceName world).and_world_eq.bind_fails
    fun server between ⟨⟨_, fresh⟩, same⟩ => ?_
  subst same
  refine (gives_loadAll loads).bind_fails_quiet fun registry next same => ?_
  subst same
  simp only [order.listed_eq, Errand.lift_ok_bind]
  refine (fails_enlistAll dependable
    (fun factory isIn => find_registryOf (perm.mem_iff.mp isIn)) (perm.mem_iff.mpr collects) wide
    ?_ next).bind
  rwa [fresh]

end Making

end Assembly

end Unified2
