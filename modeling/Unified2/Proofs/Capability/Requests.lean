import Unified2.Proofs.Capability.Process

/-! Requests to a registry: the first product that is offered under a name stays there, and what
fails changes nothing. -/

namespace Unified2.Registry

open Importer

/-- A request to a registry. -/
inductive Request (Object Other : Type)
  | register (product : Product Object)
  | load (path : ImportPath)
  | loadAll (paths : List ImportPath)
  | get (name : ObjectName Other)

/-- What came of a request: why it failed, if it did, what is registered afterwards, and the world
afterwards. -/
structure Reply (World Object Other : Type) where
  failure : Option LoadError
  registry : Loaded Object Other
  world : World

variable {World Module Member Object Other : Type} [DecidableEq Other]
  {importer : Importer World Module Member Object Other} {registry : Loaded Object Other}
  {offered : List (Product Object)}

/-- The first of the products that have a name. -/
def firstNamed (importer : Importer World Module Member Object Other) (name : ObjectName Other)
    (offered : List (Product Object)) : Option (Product Object) :=
  offered.find? fun product => (importer.productName product).toOption = some name

/-- A registry keeps the first of the products that were offered under each name. -/
structure Keeps (importer : Importer World Module Member Object Other)
    (registry : Loaded Object Other) (offered : List (Product Object)) : Prop where
  distinct : registry.Distinct
  lookup_eq : ∀ name, registry.entries.lookup name = firstNamed importer name offered

/-- Nothing was offered to a new registry. -/
theorem keeps_empty : Keeps importer {} [] := ⟨distinct_empty, fun _ => rfl⟩

/-- Behind other products, one is the first of its name if none of them has it. -/
theorem firstNamed_append (name : ObjectName Other) (product : Product Object) :
    firstNamed importer name (offered ++ [product]) =
      (firstNamed importer name offered).or
        (if importer.productName product = .ok name then some product else none) := by
  rw [firstNamed, List.find?_append, firstNamed, List.find?_singleton]
  cases importer.productName product <;> simp [Except.toOption]

variable [ToString Other]

section Requests

variable (importer : Importer World Module Member Object Other)

/-- Does what a request asks for. -/
def serve (registry : Loaded Object Other) (world : World) :
    Request Object Other → Reply World Object Other
  | .register product =>
    match importer.register registry product with
    | .ok (_, after) => ⟨none, after, world⟩
    | .error error => ⟨some error, registry, world⟩
  | .load path =>
    match importer.load registry path world with
    | ⟨.ok (_, after), _, next⟩ => ⟨none, after, next⟩
    -- The registry stays, but looking for a path that fails may have changed the world.
    | ⟨.error error, _, next⟩ => ⟨some error, registry, next⟩
  | .loadAll paths =>
    let loading := importer.loadAll registry paths world
    ⟨loading.failure, loading.registry, loading.world⟩
  | .get name =>
    match registry.find name with
    | .ok _ => ⟨none, registry, world⟩
    | .error error => ⟨some (.registry error), registry, world⟩

/-- What is registered after requests. -/
def run : Loaded Object Other → World → List (Request Object Other) → Loaded Object Other
  | registry, _, [] => registry
  | registry, world, request :: rest =>
    let reply := serve importer registry world request
    run reply.registry reply.world rest

/-- The product that an import path leads to, if it leads to one. -/
def product (path : ImportPath) (world : World) : List (Product Object) :=
  match (importer.resolve path world).result with
  | .ok product => [product]
  | .error _ => []

/-- The products that import paths lead to, up to the first that is not loaded. -/
def products : Loaded Object Other → List ImportPath → World → List (Product Object)
  | _, [], _ => []
  | registry, path :: rest, world =>
    product importer path world ++
      match importer.load registry path world with
      | ⟨.ok (_, after), _, next⟩ => products after rest next
      | ⟨.error _, _, _⟩ => []

/-- The products that a request offers to a registry, whether they are taken or not. -/
def offersOf (registry : Loaded Object Other) (world : World) :
    Request Object Other → List (Product Object)
  | .register product => [product]
  | .load path => product importer path world
  | .loadAll paths => products importer registry paths world
  | .get _ => []

/-- The products that requests offer to a registry, in turn. -/
def offers : Loaded Object Other → World → List (Request Object Other) → List (Product Object)
  | _, _, [] => []
  | registry, world, request :: rest =>
    let reply := serve importer registry world request
    offersOf importer registry world request ++ offers reply.registry reply.world rest

/-- Import paths are loaded one after the other, and leave behind what is registered and the
world. -/
inductive LoadsAll :
    Loaded Object Other → World → List ImportPath → Loaded Object Other → World → Prop
  | nil (registry : Loaded Object Other) (world : World) : LoadsAll registry world [] registry world
  | cons {registry middle after : Loaded Object Other} {world between next : World}
    {path : ImportPath} {rest : List ImportPath}
    (first : serve importer registry world (.load path) = ⟨none, middle, between⟩)
    (later : LoadsAll middle between rest after next) :
    LoadsAll registry world (path :: rest) after next

end Requests

/-- A product is registered behind the others, unless it has no name or its name is taken. -/
theorem serve_register (world : World) (product : Product Object) :
    serve importer registry world (.register product) =
      match importer.productName product with
      | .error error => ⟨some error, registry, world⟩
      | .ok name =>
        if name ∈ registry.keys then
          ⟨some (.registry (.duplicate (toString name))), registry, world⟩
        else ⟨none, ⟨registry.entries ++ [(name, product)]⟩, world⟩ := by
  rw [serve, register_eq]
  cases importer.productName product with
  | error error => rfl
  | ok name => by_cases taken : name ∈ registry.keys <;> simp [taken]

/-- To load a path is to register what it leads to, if it leads anywhere. -/
theorem serve_load (world : World) (path : ImportPath) :
    serve importer registry world (.load path) =
      match importer.resolve path world with
      | ⟨.error error, _, after⟩ => ⟨some error, registry, after⟩
      | ⟨.ok product, _, after⟩ => serve importer registry after (.register product) := by
  rw [serve, load_eq]
  rcases importer.resolve path world with ⟨error | product, log, after⟩
  · rfl
  · simp only [serve]
    rcases importer.register registry product with error | ⟨name, others⟩ <;> rfl

/-- Loading many paths loads one after the other, all of them or those before the first that
fails. -/
theorem serve_loadAll_cases (registry : Loaded Object Other) (world : World)
    (paths : List ImportPath) :
    ∃ loaded rest after next, paths = loaded ++ rest ∧
      LoadsAll importer registry world loaded after next ∧
      ((rest = [] ∧ serve importer registry world (.loadAll paths) = ⟨none, after, next⟩) ∨
        ∃ path later error last, rest = path :: later ∧
          serve importer after next (.load path) = ⟨some error, after, last⟩ ∧
          serve importer registry world (.loadAll paths) = ⟨some error, after, last⟩) := by
  -- The first path is loaded before the others, or stops them.
  induction paths generalizing registry world with
  | nil => exact ⟨[], [], registry, world, rfl, .nil registry world, .inl ⟨rfl, rfl⟩⟩
  | cons path paths ih =>
    rcases first : importer.load registry path world with ⟨error | ⟨name, middle⟩, log, between⟩
    · -- The first path fails, so none is loaded.
      refine ⟨[], path :: paths, registry, world, rfl, .nil registry world,
        .inr ⟨path, paths, error, between, rfl, ?_, ?_⟩⟩
      · simp only [serve, first]
      · simp only [serve, loadAll, first]
    · obtain ⟨loaded, rest, after, next, rfl, loads, outcome⟩ := ih middle between
      have firstServed : serve importer registry world (.load path) = ⟨none, middle, between⟩ := by
        simp only [serve, first]
      have joined : serve importer registry world (.loadAll (path :: (loaded ++ rest))) =
          serve importer middle between (.loadAll (loaded ++ rest)) := by
        simp only [serve, loadAll, first]
      refine ⟨path :: loaded, rest, after, next, rfl, .cons firstServed loads, ?_⟩
      rw [joined]
      exact outcome

/-- A product that is offered is registered if it is the first of its name. -/
theorem Keeps.register (keeps : Keeps importer registry offered) (world : World)
    (product : Product Object) :
    Keeps importer (serve importer registry world (.register product)).registry
      (offered ++ [product]) := by
  rw [serve_register]
  -- Without a name nothing is added, neither to the registry nor to the first of any name.
  cases named : importer.productName product with
  | error error =>
    refine ⟨keeps.distinct, fun name => ?_⟩
    simp [firstNamed_append, named, keeps.lookup_eq]
  | ok key =>
    by_cases taken : key ∈ registry.keys
    · simp only [if_pos taken]
      refine ⟨keeps.distinct, fun name => ?_⟩
      rw [firstNamed_append, ← keeps.lookup_eq, named]
      by_cases same : key = name
      · -- An earlier product is found before this one.
        obtain ⟨first, found⟩ := Option.isSome_iff_exists.mp (lookup_isSome_iff.mpr (same ▸ taken))
        rw [found, Option.some_or]
      · simp [same]
    · -- Nothing was found under the name before, so this product is the first.
      simp only [if_neg taken]
      refine ⟨keeps.distinct.add (add_eq_ok_iff.mpr ⟨taken, rfl⟩), fun name => ?_⟩
      rw [firstNamed_append, ← keeps.lookup_eq, named, List.lookup_append]
      by_cases same : key = name
      · simp [same]
      · have other : (name == key) = false := beq_eq_false_iff_ne.mpr (Ne.symm same)
        simp [same, List.lookup_cons, other]

/-- The product that a path leads to is offered. -/
theorem Keeps.load (keeps : Keeps importer registry offered) (world : World) (path : ImportPath) :
    Keeps importer (serve importer registry world (.load path)).registry
      (offered ++ product importer path world) := by
  rw [serve_load, product]
  rcases importer.resolve path world with ⟨error | product, log, after⟩
  · simpa using keeps
  · exact keeps.register after product

/-- The products of all paths that loading comes to are offered. -/
theorem Keeps.loadAll (keeps : Keeps importer registry offered) (paths : List ImportPath)
    (world : World) :
    Keeps importer (importer.loadAll registry paths world).registry
      (offered ++ products importer registry paths world) := by
  -- What the first path leads to is offered before the others, if they are reached.
  induction paths generalizing registry offered world with
  | nil => simpa [products, Importer.loadAll] using keeps
  | cons path rest ih =>
    have first := keeps.load world path
    rcases loaded : importer.load registry path world with ⟨error | ⟨name, after⟩, log, next⟩
    · -- Loading stops here: the path may have offered a product, but no other one is reached.
      simpa [serve, products, Importer.loadAll, loaded] using first
    · have later := ih (by simpa [serve, loaded] using first) next
      rw [List.append_assoc] at later
      simpa [products, Importer.loadAll, loaded] using later

/-- A request is kept with what it offers. -/
theorem Keeps.serve (keeps : Keeps importer registry offered) (world : World)
    (request : Request Object Other) :
    Keeps importer (serve importer registry world request).registry
      (offered ++ offersOf importer registry world request) := by
  cases request with
  | register product => exact keeps.register world product
  | load path => exact keeps.load world path
  | loadAll paths => exact keeps.loadAll paths world
  | get name =>
    rw [offersOf, List.append_nil, Registry.serve]
    cases registry.find name <;> exact keeps

/-- Requests are kept with what they offer in turn. -/
theorem Keeps.run (keeps : Keeps importer registry offered) (world : World)
    (requests : List (Request Object Other)) :
    Keeps importer (run importer registry world requests)
      (offered ++ offers importer registry world requests) := by
  -- The first request is served before the others.
  induction requests generalizing registry offered world with
  | nil => rwa [offers, List.append_nil]
  | cons request rest ih =>
    have later :=
      ih (keeps.serve world request) (Registry.serve importer registry world request).world
    rwa [List.append_assoc] at later

/-- A registry is a map from names to the first of the products that were offered under them. -/
structure FirstWins (importer : Importer World Module Member Object Other)
    (registry : Loaded Object Other) (offered : List (Product Object)) : Prop where
  /-- Names that are all of them texts, as capabilities have them, are listed in strict order, and
  exactly what is listed is found. -/
  listed : (∀ name ∈ registry.keys, ∃ text, name = .text text) →
    ∃ texts : List String, importer.listed registry = .ok (texts.map .text) ∧
      texts.Pairwise (· < ·) ∧
      ∀ name, (∃ product, registry.find name = .ok product) ↔ name ∈ texts.map .text
  /-- Whatever the names are, exactly those that are taken are found. -/
  found_iff : ∀ name, (∃ product, registry.find name = .ok product) ↔ name ∈ registry.keys
  first_iff : ∀ name product,
    registry.find name = .ok product ↔ firstNamed importer name offered = some product

/-- What becomes of each request to a registry, in whatever world it is made. -/
structure Stepwise (importer : Importer World Module Member Object Other)
    (registry : Loaded Object Other) : Prop where
  register_eq : ∀ world product,
    serve importer registry world (.register product) =
      match importer.productName product with
      | .error error => ⟨some error, registry, world⟩
      | .ok name =>
        if name ∈ registry.keys then
          ⟨some (.registry (.duplicate (toString name))), registry, world⟩
        else ⟨none, ⟨registry.entries ++ [(name, product)]⟩, world⟩
  load_eq : ∀ world path,
    serve importer registry world (.load path) =
      match importer.resolve path world with
      | ⟨.error error, _, after⟩ => ⟨some error, registry, after⟩
      | ⟨.ok product, _, after⟩ => serve importer registry after (.register product)
  /-- These are all the ways in which looking for a path ends. -/
  resolves_iff : ∀ world path report,
    Resolution importer path world report ↔ importer.resolve path world = report
  loadAll_cases : ∀ world paths,
    ∃ loaded rest after next, paths = loaded ++ rest ∧
      LoadsAll importer registry world loaded after next ∧
      ((rest = [] ∧ serve importer registry world (.loadAll paths) = ⟨none, after, next⟩) ∨
        ∃ path later error last, rest = path :: later ∧
          serve importer after next (.load path) = ⟨some error, after, last⟩ ∧
          serve importer registry world (.loadAll paths) = ⟨some error, after, last⟩)
  get_eq : ∀ world name,
    serve importer registry world (.get name) =
      ⟨if name ∈ registry.keys then none else some (.registry (.notLoaded (toString name))),
        registry, world⟩

/-- What was kept of the products that were offered is the first of each name. -/
theorem Keeps.firstWins (keeps : Keeps importer registry offered) :
    FirstWins importer registry offered where
  listed texts := by
    -- The names are texts that all differ, and sorting leaves the texts that there are.
    obtain ⟨all, same⟩ : registry.keys ∈ Set.range (List.map ObjectName.text) := by
      rw [Set.range_list_map]
      exact fun name isIn => (texts name isIn).imp fun _ => Eq.symm
    have distinct : registry.keys.Nodup := keeps.distinct
    rw [← same] at distinct
    have differ : all.Nodup := distinct.of_map
    refine ⟨Text.sorted all, listed_of_keys_eq same.symm, Text.sorted_pairwise_lt differ,
      fun name => ?_⟩
    rw [exists_find_iff, ← same, ((Text.sorted_perm all).map ObjectName.text).mem_iff]
  found_iff _ := exists_find_iff
  first_iff name product := by rw [find_eq_ok_iff, keeps.lookup_eq]

/-- Looking for what is registered changes nothing. -/
theorem serve_get (world : World) (name : ObjectName Other) :
    serve importer registry world (.get name) =
      ⟨if name ∈ registry.keys then none else some (.registry (.notLoaded (toString name))),
        registry, world⟩ := by
  rw [serve]
  cases found : registry.find name with
  | ok product => rw [if_pos (exists_find_iff.mp ⟨product, found⟩)]
  | error error =>
    obtain ⟨free, rfl⟩ := find_eq_error_iff.mp found
    rw [if_neg free]

/-- Whatever modules and objects there are, a registry is a map that keeps the first product of each
name, in whatever order products are registered, loaded and looked up. A request that fails leaves
what is registered as it was, whichever step of it failed, and many paths are loaded one after the
other, all of them or those before the first that fails. A path is parted by its first colon, and
the default name stands in for one that is not there. -/
theorem keeps_first_offered (importer : Importer World Module Member Object Other) (world : World)
    (requests : List (Request Object Other)) :
    let registry := run importer {} world requests
    FirstWins importer registry (offers importer {} world requests) ∧
    Stepwise importer registry ∧
    (∀ moduleName memberName, .char ':' ∉ moduleName →
      ImportPath.split (moduleName ++ .char ':' :: memberName) =
        (moduleName,
          if memberName = [] then CodeText.ofString "build_capability" else memberName)) ∧
    ∀ path, .char ':' ∉ path →
      ImportPath.split path = (path, CodeText.ofString "build_capability") := by
  intro registry
  -- Nothing was offered at first, so the run keeps all that the requests offer.
  have keeps : Keeps importer registry (offers importer {} world requests) :=
    keeps_empty.run world requests
  exact ⟨keeps.firstWins,
    { register_eq := serve_register
      load_eq := serve_load
      resolves_iff := fun _ _ _ => resolution_iff
      loadAll_cases := serve_loadAll_cases registry
      get_eq := serve_get },
    ImportPath.split_append, ImportPath.split_of_not_mem⟩

/-- A module with its default name left out leads to the capability that is there already; it stays
the only one, and paths that name no module, or one that is not there, leave it alone. -/
theorem keeps_first_offered_of_reader :
    let importer := Process.importer {}
    let reader := CodeText.ofString "unified2_mcp.capabilities.file_read.capability"
    let maker : ImportPath := reader ++ .char ':' :: CodeText.ofString "build_capability"
    let unnamed := CodeText.ofString ":build_capability"
    let nope := CodeText.ofString "nope"
    let registry := run importer {} Imported.everything [.load maker]
    importer.listed registry = .ok [.text "file_read"] ∧
      registry.find (.text "file_read") = .ok (.capability (.pageReader {})) ∧
      ∀ imported,
        (serve importer registry imported (.load reader)).failure =
          some (.registry (.duplicate "file_read")) ∧
        serve importer registry imported (.load unnamed) =
          ⟨some (.noModuleName unnamed), registry, imported⟩ ∧
        (serve importer registry imported (.load nope)).failure =
          some (ImportError.noModule nope).loadError ∧
        (serve importer registry imported (.load nope)).registry = registry := by
  intro importer reader maker unnamed nope registry
  -- Of what holds of every run of requests, the steps and the parting of paths are used.
  obtain ⟨-, stepwise, parts, whole⟩ : _ ∧ Stepwise importer registry ∧ _ :=
    keeps_first_offered importer Imported.everything [.load maker]
  have noColon : .char ':' ∉ reader := by decide
  -- The path is spelled with its member and without, and leads to the same factory.
  have makerLeads (imported) : ∃ after, importer.resolve maker imported =
      ⟨.ok (.capability (.make .pageReader)), [], after⟩ :=
    Process.resolve_factory (parts reader _ noColon) {} imported
  have readerLeads (imported) : ∃ after, importer.resolve reader imported =
      ⟨.ok (.capability (.make .pageReader)), [], after⟩ :=
    Process.resolve_factory (whole reader noColon) {} imported
  have registered : registry = ⟨[(.text "file_read", .capability (.pageReader {}))]⟩ := by
    obtain ⟨after, leads⟩ := makerLeads Imported.everything
    show (serve importer {} Imported.everything (.load maker)).registry = _
    rw [serve_load, leads]
    rfl
  -- So the reader cannot be registered again.
  have taken : ObjectName.text "file_read" ∈ registry.keys := by rw [registered]; decide
  refine ⟨?_, ?_, fun imported => ⟨?_, ?_, ?_, ?_⟩⟩
  · have keys : registry.keys = ["file_read"].map .text := by rw [registered]; rfl
    rw [listed_of_keys_eq keys, Text.sorted, List.mergeSort_singleton]
    rfl
  · rw [registered]
    rfl
  · obtain ⟨after, leads⟩ := readerLeads imported
    have named : importer.productName (.capability (.make .pageReader)) =
      .ok (.text "file_read") := rfl
    simp only [stepwise.load_eq, leads, stepwise.register_eq, named, if_pos taken]
    rfl
  · have empty : ImportPath.split unnamed = ([], CodeText.ofString "build_capability") :=
      parts [] _ List.not_mem_nil
    have ends := (stepwise.resolves_iff imported unnamed _).mp (.noModuleName (by rw [empty]))
    rw [stepwise.load_eq, ends]
  · obtain ⟨after, fails⟩ := Process.resolve_nope {} imported
    rw [stepwise.load_eq, fails]
  · obtain ⟨after, fails⟩ := Process.resolve_nope {} imported
    rw [stepwise.load_eq, fails]

/-- A stream that is no more than a type has a name that is no text: it is registered under it, and
then the names have no order. -/
theorem listed_fails_with_name_that_is_no_text :
    let importer := Process.importer {}
    let stream := CodeText.ofString "unified2_mcp.core.framer:BinaryIO"
    let reader := CodeText.ofString "unified2_mcp.capabilities.file_read.capability"
    let first := serve importer {} Imported.everything (.load stream)
    let second := serve importer first.registry first.world (.load reader)
    first.failure = none ∧ second.failure = none ∧
      importer.listed (run importer {} Imported.everything [.load stream, .load reader]) =
        .error (.outside "TypeError"
          "'<' not supported between instances of 'str' and 'NoneType'") := by
  intro importer stream reader first second
  -- The module is found and holds the name, and what is called is a type without content.
  have streamParts : ImportPath.split stream = _ :=
    ImportPath.split_append (CodeText.ofString "unified2_mcp.core.framer")
      (CodeText.ofString "BinaryIO") (by decide)
  obtain ⟨way, home, found, last, brings, holds⟩ : ∃ way home,
      Catalog.search none [] ((CodeText.ofString "unified2_mcp.core.framer").splitAt '.') =
        (way, none) ∧
      way.getLast? = some home ∧
      (way.map Module.name).foldl Imported.bring Imported.everything = Imported.everything ∧
      Imported.member? Imported.everything home (CodeText.ofString "BinaryIO") =
        some (.made ⟨"BinaryIO", some (.other .nothing)⟩) :=
    ⟨_, _, by cbv, by cbv,
      by simp [Imported.bring_of_mem, Imported.everything, Catalog.sources], by decide +kernel⟩
  have streamLeads : importer.resolve stream Imported.everything =
      ⟨.ok (.other ⟨"BinaryIO", some (.other .nothing)⟩), [], Imported.everything⟩ := by
    rw [Process.resolve_member streamParts (by decide) (by decide) found last brings holds {},
      Process.callWithin_made]
  obtain ⟨after, readerLeads⟩ : ∃ after, importer.resolve reader Imported.everything =
      ⟨.ok (.capability (.make .pageReader)), [], after⟩ :=
    Process.resolve_factory (ImportPath.split_of_not_mem reader (by decide)) {} _
  -- The name of the stream is free, and so is that of the reader behind it.
  have firstGives : first = ⟨none,
      ⟨[(.other .nothing, .other ⟨"BinaryIO", some (.other .nothing)⟩)]⟩, Imported.everything⟩ := by
    show serve importer {} Imported.everything (.load stream) = _
    rw [serve_load, streamLeads]
    rfl
  have secondGives : second = ⟨none,
      ⟨[(.other .nothing, .other ⟨"BinaryIO", some (.other .nothing)⟩),
        (.text "file_read", .capability (.make .pageReader))]⟩, after⟩ := by
    show serve importer first.registry first.world (.load reader) = _
    rw [firstGives, serve_load, readerLeads]
    rfl
  refine ⟨by rw [firstGives], by rw [secondGives], ?_⟩
  show importer.listed second.registry = _
  rw [secondGives]
  rfl

end Unified2.Registry
