import Unified2.Capability.Importer

/-! Putting a host together: a server that serves tools is made, capabilities are loaded, and all of
them offer their tools to it. The server is that of a service, of which nothing is known here. -/

namespace Unified2

/-- How servers are made and take tools. -/
structure ToolService (World Object Server : Type) where
  /-- A new server of a name. -/
  create : String → Errand World Server
  /-- Offers a tool of a name to a server, which is then another. -/
  offer : Server → String → Errand World Server
  /-- Lets an object that is no capability of this program offer tools of its own. -/
  adopt : Server → Settings → Object → Errand World Server
  /-- Serves a server to its end. -/
  run : Server → Errand World Unit
  /-- The name of a server. -/
  name : Server → String
  /-- The names of the tools that a server has. -/
  tools : Server → List String

/-- A host as it was put together. -/
structure Assembly (Object Other Server : Type) where
  settings : Settings
  registry : Loaded Object Other
  server : Server

namespace Assembly

/-- The name that a host serves under. -/
def serviceName : String := "unified2_mcp"

/-- The tools that do without any capability. -/
def coreTools : List String := ["list_capabilities", "capability_status", "describe_record_types"]

/-- The component that log records of a host name. -/
def component : String := "unified2_mcp.core.server"

/-- What the log is told when a host starts to serve. -/
def startRecord (names : String) : LogRecord where
  component
  level := .info
  message := "starting unified2 MCP server with " ++ names

variable {World Module Member Object Other Server : Type} [DecidableEq Other] [ToString Other]
  (importer : Importer World Module Member Object Other)
  (service : ToolService World Object Server) (settings : Settings)

/-- Offers tools to a server one after the other. -/
def offerAll (server : Server) : List String → Errand World Server
  | [] => return server
  | tool :: rest => do offerAll (← service.offer server tool) rest

/-- Lets a product take over settings and offer its tools to a server. -/
def enlist (server : Server) : Product Object → Errand World (Product Object × Server)
  | .capability it => do
    -- A capability that cannot take over the settings has not offered anything yet.
    let it ← Errand.lift ((it.configure settings).mapError .queue)
    let server ← offerAll service server it.tools
    return (.capability it, server)
  | .other object => do
    let server ← service.adopt server settings object
    return (.other object, server)

/-- Enlists what stands under names, one after the other. -/
def enlistAll (registry : Loaded Object Other) : Server → List (ObjectName Other) →
    Errand World (List (ObjectName Other × Product Object) × Server)
  | server, [] => return ([], server)
  | server, name :: rest => do
    -- The name comes from the registry itself, so it is found there.
    let product ← Errand.lift ((registry.find name).mapError .registry)
    let (product, server) ← enlist service settings server product
    let (entries, server) ← enlistAll registry server rest
    return ((name, product) :: entries, server)

/-- Puts a host together: only a full set of capabilities takes over its settings. -/
def make (paths : List ImportPath) : Errand World (Assembly Object Other Server) := do
  -- The server comes first, so whatever that does to the log counts for loading.
  let server ← service.create serviceName
  let registry ← fun world => (importer.loadAll {} paths world).report
  let names ← Errand.lift (importer.listed registry)
  let (entries, server) ← enlistAll service settings registry server names
  -- The tools of the host itself come last.
  let server ← offerAll service server coreTools
  return { settings, registry := ⟨entries⟩, server }

/-- What a host tells the log when it starts to serve. -/
def startNotice (assembly : Assembly Object Other Server) : Except LoadError LogRecord := do
  return startRecord (← importer.joined (← importer.listed assembly.registry))

/-- Puts the host of the settings together and tells the log that it starts to serve. -/
def prepare : Errand World (Assembly Object Other Server) := do
  let assembly ← make importer service settings settings.capabilities
  let record ← Errand.lift (assembly.startNotice importer)
  Errand.tell [.record record]
  return assembly

end Assembly

end Unified2
