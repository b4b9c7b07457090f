import Unified2.Capability.Process
import Unified2.Proofs.Capability.Resolving

/-! The modules of the program: whatever was imported before, import paths that lead to a factory of
theirs lead to a new capability, and no capability comes of them in another way. -/

namespace Unified2

namespace Imported

variable {name : CodeText} {way : List Module}

/-- A module is found at the end of the way to it. -/
theorem findModule_eq_ok {home : Module} (absolute : name.head? ≠ some (.char '.'))
    (found : Catalog.search none [] (name.splitAt '.') = (way, none))
    (last : way.getLast? = some home) (imported : Imported) :
    findModule name imported = ⟨.ok home, [], (way.map Module.name).foldl bring imported⟩ := by
  simp only [findModule, if_neg absolute, found, last]

/-- A way that ends early leads to no module. -/
theorem findModule_eq_error {error : ImportError} (absolute : name.head? ≠ some (.char '.'))
    (missed : Catalog.search none [] (name.splitAt '.') = (way, some error))
    (imported : Imported) :
    findModule name imported =
      ⟨.error error.loadError, [], (way.map Module.name).foldl bring imported⟩ := by
  simp only [findModule, if_neg absolute, missed]

/-- A module that was imported brings nothing new. -/
theorem bring_of_mem {imported : Imported} {name : String} (isIn : name ∈ imported) :
    imported.bring name = imported := by
  -- Its name is taken off at once, and then none is left to be brought.
  rw [bring, Nat.add_comm, bringWithin, if_pos isIn, bringWithin.eq_def]
  split <;> simp_all

/-- Under the default name a module has its factory, if it has one. -/
theorem member?_default {home : Module} {factory : Factory}
    (makes : home.factory = some factory) (imported : Imported) :
    member? imported home (CodeText.ofString ImportPath.defaultMember) =
      some (.factory factory) := by
  simp [member?, makes]

end Imported

namespace Process

/-- Calling a factory gives a new capability. -/
theorem callWithin_factory (process : Process) (depth : Nat) (factory : Factory)
    (imported : Imported) :
    process.callWithin depth (.factory factory) imported =
      ⟨.ok (.capability (.make factory)), [], imported⟩ := by
  rw [callWithin]
  rfl

/-- Calling what only gives an object gives that object. -/
theorem callWithin_made (process : Process) (depth : Nat) (made : Made) (imported : Imported) :
    process.callWithin depth (.made made) imported = ⟨.ok (.other made), [], imported⟩ := by
  rw [callWithin]
  rfl

section Resolving

variable {path : ImportPath} {moduleName memberName : CodeText} {way : List Module}

/-- A path to a member of a module leads to what its call gives. -/
theorem resolve_member {home : Module} {member : Member} {imported after : Imported}
    (parts : path.split = (moduleName, memberName)) (named : moduleName ≠ [])
    (absolute : moduleName.head? ≠ some (.char '.'))
    (found : Catalog.search none [] (moduleName.splitAt '.') = (way, none))
    (last : way.getLast? = some home)
    (brings : (way.map Module.name).foldl Imported.bring imported = after)
    (holds : Imported.member? after home memberName = some member) (process : Process) :
    process.importer.resolve path imported = process.callWithin depthLimit member after := by
  -- The module is found, and what it holds under the name is called.
  have given : Imported.getMember home memberName after = ⟨.ok member, [], after⟩ := by
    simp only [Imported.getMember, holds]
  simp only [Importer.resolve, parts, List.isEmpty_iff, if_neg named, importer, importerBy]
  rw [Errand.bind_of_ok (Imported.findModule_eq_ok absolute found last imported), brings,
    Errand.bind_of_ok given]
  rfl

/-- A path to a module that is not found leads nowhere, whatever was imported before. -/
theorem resolve_missed {error : ImportError} (parts : path.split = (moduleName, memberName))
    (named : moduleName ≠ []) (absolute : moduleName.head? ≠ some (.char '.'))
    (missed : Catalog.search none [] (moduleName.splitAt '.') = (way, some error))
    (process : Process) (imported : Imported) :
    ∃ after, process.importer.resolve path imported = ⟨.error error.loadError, [], after⟩ := by
  simp only [Importer.resolve, parts, List.isEmpty_iff, if_neg named, importer, importerBy]
  rw [Errand.bind_of_error (Imported.findModule_eq_error absolute missed imported)]
  exact ⟨_, rfl⟩

end Resolving

/-- The name of the module that a factory is in. -/
def factoryModule : Factory → CodeText
  | .pageReader => CodeText.ofString "unified2_mcp.capabilities.file_read.capability"
  | .collector => CodeText.ofString "unified2_mcp.capabilities.file_tail.capability"

/-- The module of a factory is found, and has it under the default name. -/
theorem exists_search_factoryModule (factory : Factory) :
    ∃ way home, Catalog.search none [] ((factoryModule factory).splitAt '.') = (way, none) ∧
      way.getLast? = some home ∧ home.factory = some factory := by
  cases factory with
  -- The catalog is searched for either name.
  | pageReader => exact ⟨_, _, by cbv, by cbv, by cbv⟩
  | collector => exact ⟨_, _, by cbv, by cbv, by cbv⟩

/-- A path to the module of a factory leads to what it makes, whatever was imported before and
however the path is spelled. -/
theorem resolve_factory {path : ImportPath} {factory : Factory}
    (parts : path.split = (factoryModule factory, CodeText.ofString ImportPath.defaultMember))
    (process : Process) (imported : Imported) :
    ∃ after, process.importer.resolve path imported =
      ⟨.ok (.capability (.make factory)), [], after⟩ := by
  obtain ⟨way, home, found, last, makes⟩ := exists_search_factoryModule factory
  have named : factoryModule factory ≠ [] := by cases factory <;> decide
  have absolute : (factoryModule factory).head? ≠ some (.char '.') := by cases factory <;> decide
  rw [resolve_member parts named absolute found last rfl (Imported.member?_default makes _),
    callWithin_factory]
  exact ⟨_, rfl⟩

/-- The default import paths are those of the factories. -/
theorem defaultCapabilities_eq :
    ∃ reader collector : ImportPath, Settings.defaultCapabilities = [reader, collector] ∧
      reader.split =
        (factoryModule .pageReader, CodeText.ofString ImportPath.defaultMember) ∧
      collector.split = (factoryModule .collector, CodeText.ofString ImportPath.defaultMember) :=
  ⟨_, _, rfl, by cbv, by cbv⟩

/-- Such a path leads to a new capability, and nothing is told the log meanwhile. -/
theorem exists_leads_factory {path : ImportPath} {factory : Factory}
    (parts : path.split = (factoryModule factory, CodeText.ofString ImportPath.defaultMember))
    (process : Process) (imported : Imported) :
    ∃ after, Importer.Leads process.importer path imported (.ok factory) after := by
  obtain ⟨after, found⟩ := resolve_factory parts process imported
  exact ⟨after, .factory found fun _ isIn => absurd isIn List.not_mem_nil⟩

/-- The default import paths are loaded, whatever was imported before. -/
theorem exists_loads_default (process : Process) (imported : Imported) :
    ∃ after, Importer.Loads process.importer imported Settings.defaultCapabilities
      [.pageReader, .collector] after := by
  obtain ⟨reader, collector, paths, readerParts, collectorParts⟩ := defaultCapabilities_eq
  -- The second path is looked for among what the first one imported.
  obtain ⟨between, readerLeads⟩ := exists_leads_factory readerParts process imported
  obtain ⟨after, collectorLeads⟩ := exists_leads_factory collectorParts process between
  have first := Importer.Loads.nil.snoc readerLeads List.not_mem_nil
  rw [paths]
  exact ⟨after, first.snoc collectorLeads (by decide)⟩

/-- There is no module of this name. -/
theorem resolve_nope (process : Process) (imported : Imported) :
    ∃ after, process.importer.resolve (CodeText.ofString "nope") imported =
      ⟨.error (ImportError.noModule (CodeText.ofString "nope")).loadError, [], after⟩ := by
  have parts := ImportPath.split_of_not_mem (CodeText.ofString "nope") (by decide)
  -- The search ends at the first part of the name already.
  have missed : Catalog.search none [] ((CodeText.ofString "nope").splitAt '.') =
      ([], some (.noModule (CodeText.ofString "nope"))) := by decide +kernel
  exact resolve_missed parts (by decide) (by decide) missed process imported

variable {process : Process}

/-- A capability that a call gives is a new one. -/
theorem exists_make_of_callWithin {depth : Nat} {member : Member} {imported : Imported}
    {capability : Capability}
    (called : (process.callWithin depth member imported).result = .ok (.capability capability)) :
    ∃ factory, capability = .make factory := by
  -- Only a factory gives a capability; all else gives other objects, if it gives anything.
  cases member with
  | factory factory =>
    rw [callWithin_factory, Except.ok.injEq, Product.capability.injEq] at called
    exact ⟨factory, called.symm⟩
  | host =>
    cases depth with
    | zero => simp [callWithin] at called
    | succ depth =>
      obtain ⟨_, _, _, -, given⟩ := Errand.exists_of_bind_ok called
      cases given
  -- A program that ends gives nothing, and a host gives itself: neither is a capability.
  | program =>
    cases depth with
    | zero => simp [callWithin] at called
    | succ depth =>
      obtain ⟨_, _, _, -, called⟩ := Errand.exists_of_bind_ok called
      obtain ⟨_, _, _, -, called⟩ := Errand.exists_of_bind_ok called
      obtain ⟨_, _, _, -, given⟩ := Errand.exists_of_bind_ok called
      cases given
  -- These call code of others or set up the log, and give an object, not a capability.
  | logSetup | server =>
    rw [callWithin] at called
    obtain ⟨_, _, _, -, given⟩ := Errand.exists_of_bind_ok called
    cases given
  | made | value | function | refusing => simp [callWithin] at called

/-- A capability that an import path leads to is a new one. -/
theorem exists_make_of_resolve {path : ImportPath} {imported after : Imported}
    {capability : Capability} {log : List LogEvent}
    (leads : process.importer.resolve path imported = ⟨.ok (.capability capability), log, after⟩) :
    ∃ factory, capability = .make factory := by
  obtain ⟨member, between, called⟩ := Importer.exists_called_of_resolve leads
  exact exists_make_of_callWithin called

/-- A capability that was loaded is a new one. -/
theorem exists_make_of_mem_loadAll {paths : List ImportPath} {imported : Imported}
    {name : ObjectName Nothing} {capability : Capability}
    (isIn : (name, .capability capability) ∈
      (process.importer.loadAll {} paths imported).registry.entries) :
    ∃ factory, capability = .make factory :=
  process.importer.forall_mem_loadAll
    (fun product => ∀ it, product = .capability it → ∃ factory, it = .make factory)
    (fun _ _ _ _ _ leads _ same => exists_make_of_resolve (same ▸ leads))
    (fun _ none => absurd none List.not_mem_nil) paths imported _ isIn capability rfl

end Process

end Unified2
