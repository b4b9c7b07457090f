import Mathlib
import Unified2.Capability.Importer
import Unified2.Proofs.Capability.Errand
import Unified2.Proofs.Capability.Registry

/-! Loading finds what import paths lead to and registers it, one path after the other up to the
first that fails. -/

namespace Unified2

namespace ImportPath

/-- The first colon of a path parts it; if nothing stands behind it, the default name does. -/
theorem split_append (moduleName memberName : CodeText) (noColon : .char ':' ∉ moduleName) :
    split (moduleName ++ .char ':' :: memberName) =
      (moduleName, if memberName = [] then CodeText.ofString defaultMember else memberName) := by
  -- No code point before the colon ends the module name, and the colon does.
  have before : ∀ point ∈ moduleName, (point != .char ':') = true := by
    intro point isIn
    rw [bne_iff_ne]
    rintro rfl
    exact noColon isIn
  have taken : (moduleName ++ .char ':' :: memberName).takeWhile (· != .char ':') = moduleName := by
    rw [List.takeWhile_append_of_pos before, List.takeWhile_cons_of_neg (by simp), List.append_nil]
  -- The colon itself belongs to neither part.
  have dropped : (moduleName ++ .char ':' :: memberName).drop (moduleName.length + 1) =
      memberName := by
    rw [List.drop_append, List.drop_eq_nil_of_le (Nat.le_succ _)]
    simp
  simp only [split, taken, dropped, List.isEmpty_iff]

/-- A path without a colon is the name of a module, of which the default name is looked for. -/
theorem split_of_not_mem (path : ImportPath) (noColon : .char ':' ∉ path) :
    split path = (path, CodeText.ofString defaultMember) := by
  have taken : path.takeWhile (· != .char ':') = path := by
    rw [List.takeWhile_eq_self_iff]
    intro point isIn
    rw [bne_iff_ne]
    rintro rfl
    exact noColon isIn
  simp [split, taken]

end ImportPath

/-- Names that are texts are the texts they are. -/
theorem ObjectName.mapM_text?_map {Other : Type} (texts : List String) :
    (texts.map text : List (ObjectName Other)).mapM text? = some texts := by
  induction texts with
  | nil => rfl
  | cons first rest ih =>
    rw [List.map_cons, List.mapM_cons, ih]
    rfl

namespace Importer

variable {World Module Member Object Other : Type}
  {importer : Importer World Module Member Object Other}

/-- How looking for what an import path leads to comes to an end: with the first step that fails, or
with what the call of a member gives. -/
inductive Resolution (importer : Importer World Module Member Object Other) (path : ImportPath)
    (world : World) : Report World (Product Object) → Prop
  /-- Nothing stands before the first colon. -/
  | noModuleName (empty : path.split.1 = []) :
    Resolution importer path world ⟨.error (.noModuleName path), [], world⟩
  | noModule {error : LoadError} {log : List LogEvent} {after : World}
    (named : path.split.1 ≠ [])
    (missed : importer.findModule path.split.1 world = ⟨.error error, log, after⟩) :
    Resolution importer path world ⟨.error error, log, after⟩
  | noMember {home : Module} {error : LoadError} {log others : List LogEvent}
    {between after : World} (named : path.split.1 ≠ [])
    (found : importer.findModule path.split.1 world = ⟨.ok home, log, between⟩)
    (missed : importer.getMember home path.split.2 between = ⟨.error error, others, after⟩) :
    Resolution importer path world ⟨.error error, log ++ others, after⟩
  /-- The call is the last step, whether it fails or not. -/
  | called {home : Module} {member : Member} {report : Report World (Product Object)}
    {log others : List LogEvent} {between after : World} (named : path.split.1 ≠ [])
    (found : importer.findModule path.split.1 world = ⟨.ok home, log, between⟩)
    (holds : importer.getMember home path.split.2 between = ⟨.ok member, others, after⟩)
    (gives : importer.callMember member after = report) :
    Resolution importer path world (report.behind (log ++ others))

/-- Looking for what an import path leads to takes these steps, and no others. -/
theorem resolution_iff {path : ImportPath} {world : World}
    {report : Report World (Product Object)} :
    Resolution importer path world report ↔ importer.resolve path world = report := by
  constructor
  · intro resolution
    cases resolution with
    | noModuleName empty => simp [resolve, empty]
    | noModule named missed =>
      simp only [resolve, List.isEmpty_iff, if_neg named]
      exact Errand.bind_of_error missed
    | noMember named found missed =>
      simp only [resolve, List.isEmpty_iff, if_neg named]
      rw [Errand.bind_of_ok found, Errand.bind_of_error missed]
      rfl
    | called named found holds gives =>
      simp only [resolve, List.isEmpty_iff, if_neg named]
      rw [Errand.bind_of_ok found, Errand.bind_of_ok holds, gives, Report.behind_behind]
  · rintro rfl
    by_cases named : path.split.1 = []
    · simpa [resolve, named] using
        (Resolution.noModuleName named : Resolution importer path world _)
    · simp only [resolve, List.isEmpty_iff, if_neg named]
      rcases found : importer.findModule path.split.1 world with ⟨error | home, log, between⟩
      · rw [Errand.bind_of_error found]
        exact .noModule named found
      rw [Errand.bind_of_ok found]
      rcases holds : importer.getMember home path.split.2 between with
        ⟨error | member, others, after⟩
      · rw [Errand.bind_of_error holds]
        exact .noMember named found holds
      · rw [Errand.bind_of_ok holds, Report.behind_behind]
        exact .called named found holds rfl

/-- What an import path leads to was given by the call of a member. -/
theorem exists_called_of_resolve {path : ImportPath} {world after : World}
    {product : Product Object} {log : List LogEvent}
    (leads : importer.resolve path world = ⟨.ok product, log, after⟩) :
    ∃ member between, (importer.callMember member between).result = .ok product := by
  by_cases named : path.split.1 = []
  · simp [resolve, named] at leads
  · simp only [resolve, List.isEmpty_iff, if_neg named] at leads
    -- A module was found, it held a member, and the call of that is the end.
    obtain ⟨home, _, _, -, rest⟩ := Errand.exists_of_bind_ok (congrArg Report.result leads)
    obtain ⟨member, _, between, -, called⟩ := Errand.exists_of_bind_ok rest
    exact ⟨member, between, called⟩

/-- Names that are all of them texts are listed in the order of those. -/
theorem listed_of_keys_eq {registry : Loaded Object Other} {texts : List String}
    (same : registry.keys = texts.map .text) :
    importer.listed registry = .ok ((Text.sorted texts).map .text) := by
  -- Only names that are all texts are sorted as such.
  rw [listed, same, ObjectName.mapM_text?_map]

/-- Names that are texts are the texts they are, wherever the first of them stands. -/
theorem textsFrom_map (importer : Importer World Module Member Object Other) (position : Nat)
    (texts : List String) : importer.textsFrom position (texts.map .text) = .ok texts := by
  induction texts generalizing position with
  | nil => rfl
  | cons text texts ih => simp [textsFrom, ih, bind, Except.bind, pure, Except.pure]

variable [DecidableEq Other] [ToString Other]

/-- A product is registered behind the others, unless it has no name or its name is taken. -/
theorem register_eq (registry : Loaded Object Other) (product : Product Object) :
    importer.register registry product =
      match importer.productName product with
      | .error error => .error error
      | .ok name =>
        if name ∈ registry.keys then .error (.registry (.duplicate (toString name)))
        else .ok (name, ⟨registry.entries ++ [(name, product)]⟩) := by
  rw [register]
  cases importer.productName product with
  | error error => rfl
  | ok name =>
    simp only [bind, Except.bind, Registry.add_eq]
    by_cases taken : name ∈ registry.keys
    · rw [if_pos taken, if_pos taken]
      rfl
    · rw [if_neg taken, if_neg taken]
      rfl

/-- Only a product whose name is free is registered. -/
theorem register_eq_ok_iff {registry after : Loaded Object Other} {product : Product Object}
    {name : ObjectName Other} :
    importer.register registry product = .ok (name, after) ↔
      importer.productName product = .ok name ∧ name ∉ registry.keys ∧
        after = ⟨registry.entries ++ [(name, product)]⟩ := by
  rw [register_eq]
  cases importer.productName product with
  | error error => simp
  | ok key =>
    by_cases taken : key ∈ registry.keys
    · simp only [if_pos taken, reduceCtorEq, Except.ok.injEq, false_iff, not_and]
      rintro rfl free
      exact absurd taken free
    · simp only [if_neg taken, Except.ok.injEq, Prod.mk.injEq]
      constructor
      · rintro ⟨rfl, rfl⟩
        exact ⟨rfl, taken, rfl⟩
      · rintro ⟨rfl, -, rfl⟩
        exact ⟨rfl, rfl⟩

/-- To load a path is to register what it leads to, and to tell of it. -/
theorem load_eq (registry : Loaded Object Other) (path : ImportPath) (world : World) :
    importer.load registry path world =
      match importer.resolve path world with
      | ⟨.error error, log, after⟩ => ⟨.error error, log, after⟩
      | ⟨.ok product, log, after⟩ =>
        match importer.register registry product with
        | .error error => ⟨.error error, log, after⟩
        | .ok (name, registry) =>
          ⟨.ok (name, registry), log ++ [.record (notice name path)], after⟩ := by
  rw [load]
  rcases resolved : importer.resolve path world with ⟨error | product, log, after⟩
  · rw [Errand.bind_of_error resolved]
  · rw [Errand.bind_of_ok resolved]
    -- Registering is no errand of its own, so the world stays as looking for the path left it.
    rcases registered : importer.register registry product with error | ⟨name, others⟩
    · simp [registered, Report.behind]
    · simp [registered, Report.behind]

/-- A path that is loaded led to the product that is registered. -/
theorem load_eq_ok {registry after : Loaded Object Other} {path : ImportPath} {world next : World}
    {name : ObjectName Other} {log : List LogEvent}
    (loaded : importer.load registry path world = ⟨.ok (name, after), log, next⟩) :
    ∃ product told, importer.resolve path world = ⟨.ok product, told, next⟩ ∧
      importer.register registry product = .ok (name, after) := by
  rw [load_eq] at loaded
  rcases resolved : importer.resolve path world with ⟨error | product, told, left⟩
  · simp [resolved] at loaded
  · rcases registered : importer.register registry product with error | ⟨key, others⟩
    · simp [resolved, registered] at loaded
    · simp only [resolved, registered, Report.mk.injEq, Except.ok.injEq, Prod.mk.injEq] at loaded
      obtain ⟨⟨rfl, rfl⟩, -, rfl⟩ := loaded
      exact ⟨product, told, rfl, registered⟩

/-- What every path leads to is good, so all that is loaded is. -/
theorem forall_mem_loadAll (good : Product Object → Prop)
    (gives : ∀ path world product log after,
      importer.resolve path world = ⟨.ok product, log, after⟩ → good product)
    {registry : Loaded Object Other} (before : ∀ entry ∈ registry.entries, good entry.2)
    (paths : List ImportPath) (world : World) :
    ∀ entry ∈ (importer.loadAll registry paths world).registry.entries, good entry.2 := by
  -- What was registered before a failure stays, and so does what was there before.
  induction paths generalizing registry world with
  | nil => exact before
  | cons path rest ih =>
    rw [loadAll]
    rcases loaded : importer.load registry path world with ⟨error | ⟨name, after⟩, log, next⟩
    · exact before
    · refine ih (fun entry isIn => ?_) next
      -- The product is the only entry that the path adds.
      obtain ⟨product, told, resolved, registered⟩ := load_eq_ok loaded
      obtain ⟨-, -, rfl⟩ := register_eq_ok_iff.mp registered
      rcases List.mem_append.mp isIn with old | new
      · exact before entry old
      · rw [List.mem_singleton.mp new]
        exact gives path world product told next resolved

end Importer

end Unified2
