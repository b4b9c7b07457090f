import Unified2.Capability.Assembly
import Unified2.Capability.Catalog

/-! The program in a process of its own: its modules, the capabilities that they make, and the hosts
that they make, which in turn load the capabilities of the process. -/

namespace Unified2

/-- A server: its name and its tools. -/
structure PlainServer where
  name : String
  tools : List String := []
  deriving DecidableEq, Repr

/-- The service that hosts use. The first tool of a name stays. -/
def ToolService.plain : ToolService Imported Made PlainServer where
  -- A server sets the outer default of the log to `INFO` as it comes up.
  create name := do
    Errand.tell [.outer LogLevel.info.severity]
    return { name }
  offer server tool :=
    return if tool ∈ server.tools then server else { server with tools := server.tools ++ [tool] }
  adopt _ _ object := .fail (object.missing "register_tools")
  -- Nobody asks the server for anything.
  run _ := return ()
  name := PlainServer.name
  tools := PlainServer.tools

/-- What a process was started with, for hosts that are told nothing else. -/
structure Process where
  settings : Settings := Settings.plain
  /-- The severity that its log was set up for. -/
  severity : Nat := LogLevel.info.severity
  /-- The modules that were imported before. -/
  imported : Imported := Imported.everything
  deriving DecidableEq, Repr

namespace Process

/-- The modules of the program, in a process that calls their members in some way. -/
def importerBy (callMember : Member → Errand Imported (Product Made)) :
    Importer Imported Module Member Made Nothing where
  findModule := Imported.findModule
  getMember := Imported.getMember
  callMember
  objectName := Made.nameOrError
  sortNames := Made.sortNames
  typeName _ := "NoneType"

/-- Calls a member; hosts may stand inside one another to some depth. -/
def callWithin (process : Process) : (depth : Nat) → Member → Errand Imported (Product Made)
  | _, .factory factory => return .capability (.make factory)
  | _, .logSetup => do
    Errand.tell [.setup LogLevel.info.severity]
    return .other ⟨"Logger", some (.text LogSetup.root)⟩
  | _, .server => do
    let server ← ToolService.plain.create "FastMCP"
    return .other ⟨"FastMCP", some (.text server.name)⟩
  -- Such an object is registered if it has a name, and fails when it shall offer tools.
  | _, .made it => return .other it
  | _, .value typeName => .fail (CallError.notCallable typeName).loadError
  | _, .function name parameters => .fail (CallError.missingArguments name parameters).loadError
  | _, .refusing reason => .fail (CallError.refused reason).loadError
  -- Hosts that load themselves come to an end in no other way.
  | 0, .host | 0, .program => .fail CallError.endless.loadError
  | depth + 1, .host => do
    let _ ← Assembly.make (importerBy (process.callWithin depth)) .plain process.settings
      process.settings.capabilities
    return .other { typeName := "Unified2MCPServer" }
  | depth + 1, .program => do
    Errand.tell [.setup process.severity]
    let assembly ← Assembly.prepare (importerBy (process.callWithin depth)) .plain process.settings
    -- A host that is complete serves; nothing comes of it in the end.
    ToolService.plain.run assembly.server
    return .other { typeName := "NoneType" }

/-- How deeply hosts can stand inside one another. Calls may only go to some depth, and how much of
that is left depends on how deep they are when the program starts. -/
def depthLimit : Nat := 180

/-- The modules of the program in a process. -/
def importer (process : Process) : Importer Imported Module Member Made Nothing :=
  importerBy (process.callWithin depthLimit)

end Process

end Unified2
