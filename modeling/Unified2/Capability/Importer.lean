import Unified2.Capability.Basic
import Unified2.Capability.Errand

/-! Loading capabilities: finding members by import path, calling them, and registering what comes
of it. Modules, members and all objects that are no capabilities of this program are those of an
importer, of which nothing is known here. -/

namespace Unified2

/-- The name of something that was loaded: a text, as every capability has one, or anything else. -/
inductive ObjectName (Other : Type)
  | text (content : String)
  | other (value : Other)
  deriving DecidableEq, Repr

/-- The text that a name is. -/
def ObjectName.text? {Other : Type} : ObjectName Other → Option String
  | text content => some content
  | other _ => none

instance {Other : Type} [ToString Other] : ToString (ObjectName Other) where
  toString
    | .text content => content
    | .other value => toString value

/-- What calling a member gave: a capability of this program, or something else. -/
inductive Product (Object : Type)
  | capability (capability : Capability)
  | other (object : Object)
  deriving DecidableEq, Repr

/-- How modules are found, what they hold, and how everything behaves that comes of it. -/
structure Importer (World Module Member Object Other : Type) where
  /-- Finds the module of a name; a module that is new is run. -/
  findModule : CodeText → Errand World Module
  /-- What a module holds under a name. -/
  getMember : Module → CodeText → Errand World Member
  /-- Calls a member without arguments. -/
  callMember : Member → Errand World (Product Object)
  /-- The name of an object, if it has one that things can be registered under. -/
  objectName : Object → Except LoadError (ObjectName Other)
  /-- Names in order, where not all of them are texts. There may be no such order. -/
  sortNames : List (ObjectName Other) → Except LoadError (List (ObjectName Other))
  /-- What kind of thing a name is that is no text. -/
  typeName : Other → String

/-- What is registered: things by their name, each of them what the call of a member gave. -/
abbrev Loaded (Object Other : Type) : Type := Registry (ObjectName Other) (Product Object)

/-- What came of loading import paths: the failure that ended it, if one did, and what was
registered, told the log and changed before that. -/
structure Loading (World Object Other : Type) where
  failure : Option LoadError
  registry : Loaded Object Other
  log : List LogEvent
  world : World

/-- The report of loading, which only counts if nothing failed. -/
def Loading.report {World Object Other : Type} (loading : Loading World Object Other) :
    Report World (Loaded Object Other) where
  result := match loading.failure with
    | some error => .error error
    | none => .ok loading.registry
  log := loading.log
  world := loading.world

namespace Importer

variable {World Module Member Object Other : Type} [DecidableEq Other] [ToString Other]

/-- The component that log records of loading name. -/
def component : String := "unified2_mcp.core.registry"

/-- What the log is told about something that was loaded. -/
def notice (name : ObjectName Other) (path : ImportPath) : LogRecord where
  component
  level := .info
  message := s!"loaded capability {name} from {path.shown}"

variable (importer : Importer World Module Member Object Other)

/-- The name that a product is registered under. -/
def productName : Product Object → Except LoadError (ObjectName Other)
  | .capability it => .ok (.text it.name)
  | .other object => importer.objectName object

/-- What an import path leads to. -/
def resolve (path : ImportPath) : Errand World (Product Object) :=
  let (moduleName, memberName) := path.split
  if moduleName.isEmpty then .fail (.noModuleName path)
  else do
    let home ← importer.findModule moduleName
    let member ← importer.getMember home memberName
    -- The member may be anything; all that counts is what its call gives.
    importer.callMember member

/-- Registers a product under its name, and gives the name. -/
def register (registry : Loaded Object Other) (product : Product Object) :
    Except LoadError (ObjectName Other × Loaded Object Other) := do
  let name ← importer.productName product
  let registry ← (registry.add name product).mapError .registry
  return (name, registry)

/-- Registers what an import path leads to, and gives its name. -/
def load (registry : Loaded Object Other) (path : ImportPath) :
    Errand World (ObjectName Other × Loaded Object Other) := do
  let product ← importer.resolve path
  let (name, registry) ← Errand.lift (importer.register registry product)
  -- Only what is registered is told of.
  Errand.tell [.record (notice name path)]
  return (name, registry)

/-- Loads import paths one after the other up to the first that fails. -/
def loadAll : Loaded Object Other → List ImportPath → World → Loading World Object Other
  | registry, [], world => ⟨none, registry, [], world⟩
  | registry, path :: rest, world =>
    match importer.load registry path world with
    -- What was loaded before a failure stays registered.
    | ⟨.error error, log, after⟩ => ⟨some error, registry, log, after⟩
    | ⟨.ok (_, registry), log, after⟩ =>
      let loading := loadAll registry rest after
      { loading with log := log ++ loading.log }

/-- The names of everything registered, in order. -/
def listed (registry : Loaded Object Other) : Except LoadError (List (ObjectName Other)) :=
  match registry.keys.mapM ObjectName.text? with
  | some texts => .ok ((Text.sorted texts).map .text)
  -- Texts have an order of their own, and anything beside them may spoil it.
  | none => importer.sortNames registry.keys

/-- The texts that names are, the first of which stands at some position. -/
def textsFrom (position : Nat) : List (ObjectName Other) → Except LoadError (List String)
  | [] => .ok []
  | .text content :: rest => do return content :: (← textsFrom (position + 1) rest)
  -- The first name that is no text is the one complained about.
  | .other value :: _ => .error (.outside "TypeError"
      s!"sequence item {position}: expected str instance, {importer.typeName value} found")

/-- Names as one text, with commas between them. -/
def joined (names : List (ObjectName Other)) : Except LoadError String := do
  return ", ".intercalate (← importer.textsFrom 0 names)

end Importer

end Unified2
