import Unified2.Capability.Member

/-! The modules of the program itself, as import paths lead to them, and what they hold. No others
are known here. -/

namespace Unified2

/-- Why a module or a member is not found. -/
inductive ImportError
  /-- The module name is relative, and there is nothing to start from. -/
  | relative (moduleName : CodeText)
  /-- There is no module of the name. -/
  | noModule (moduleName : CodeText)
  /-- There is no module of the name, for the one before it holds no others. -/
  | noPackage (moduleName parent : CodeText)
  /-- The module has no member of the name. -/
  | noMember (moduleName : String) (memberName : CodeText)
  deriving DecidableEq, Repr

namespace ImportError

/-- The kind of the error. -/
def kind : ImportError → String
  | relative _ => "TypeError"
  | noModule _ | noPackage _ _ => "ModuleNotFoundError"
  | noMember _ _ => "AttributeError"

/-- The wording of the error. -/
def message : ImportError → String
  | relative moduleName =>
    "the 'package' argument is required to perform a relative import for " ++
      Text.quotedPoints moduleName
  | noModule moduleName => s!"No module named {Text.quotedPoints moduleName}"
  | noPackage moduleName parent =>
    s!"No module named {Text.quotedPoints moduleName}; " ++
      s!"{Text.quotedPoints parent} is not a package"
  | noMember moduleName memberName =>
    s!"module '{moduleName}' has no attribute '{memberName.shown}'"

/-- The error as one that a program meets. -/
def loadError (error : ImportError) : LoadError := .outside error.kind error.message

end ImportError

/-- A module. -/
structure Module where
  name : String
  /-- Whether it can hold other modules. -/
  isPackage : Bool := false
  hasDoc : Bool := false
  /-- The modules that it needs: to import it is to import them. -/
  needs : List String := []
  /-- What is made under the default name. -/
  factory : Option Factory := none
  /-- The names of its own, beside those that every module has. -/
  names : List String := []
  deriving DecidableEq, Repr

namespace Catalog

/-- The modules, each under the name that is its own. -/
def sources : List Module := [
  { name := "unified2_mcp", isPackage := true, hasDoc := true
    names := ["__all__"] },
  { name := "unified2_mcp.capabilities", isPackage := true, hasDoc := true
    needs := ["unified2_mcp"]
    names := ["__all__"] },
  { name := "unified2_mcp.capabilities.file_read", isPackage := true
    needs := ["unified2_mcp.capabilities"] },
  { name := "unified2_mcp.capabilities.file_read.capability", factory := some .pageReader
    needs := ["unified2_mcp.capabilities.file_read", "unified2_mcp.core.capability_base",
      "unified2_mcp.core.dispatch", "unified2_mcp.core.errors", "unified2_mcp.core.models"]
    names := ["annotations", "io", "logging", "Any", "Dict", "List", "Optional", "Capability",
      "CapabilityContext", "read_record", "DecodingError", "ReadStatus", "UnknownRecord",
      "FileReadCapability"] },
  { name := "unified2_mcp.capabilities.file_tail", isPackage := true
    needs := ["unified2_mcp.capabilities"] },
  { name := "unified2_mcp.capabilities.file_tail.capability", factory := some .collector
    needs := ["unified2_mcp.capabilities.file_tail", "unified2_mcp.core.capability_base",
      "unified2_mcp.core.queue", "unified2_mcp.core.tail"]
    names := ["annotations", "asyncio", "logging", "Path", "Any", "Dict", "List", "Optional",
      "Capability", "CapabilityContext", "RecordQueue", "Unified2Tailer", "FileTailCapability"] },
  { name := "unified2_mcp.cli", isPackage := true
    needs := ["unified2_mcp"] },
  { name := "unified2_mcp.cli.run_server"
    needs := ["unified2_mcp.cli", "unified2_mcp.core.config", "unified2_mcp.core.server",
      "unified2_mcp.utils.logging"]
    names := ["annotations", "Settings", "Unified2MCPServer", "configure_logging", "main"] },
  { name := "unified2_mcp.core", isPackage := true, hasDoc := true
    needs := ["unified2_mcp", "unified2_mcp.core.wire", "unified2_mcp.core.models",
      "unified2_mcp.core.errors", "unified2_mcp.core.framer", "unified2_mcp.core.decoder",
      "unified2_mcp.core.dispatch", "unified2_mcp.core.tail"]
    names := ["RecordType", "is_event_type", "DecodedRecord", "EventRecord", "ExtraDataRecord",
      "PacketRecord", "RawHeader", "RawRecord", "ReadStatus", "UnknownRecord", "DecodingError",
      "Unified2Error", "read_raw_record", "decode_event", "decode_extra_data", "decode_packet",
      "decode_raw_record", "iter_records", "read_record", "Unified2Tailer", "__all__"] },
  { name := "unified2_mcp.core.capability_base"
    needs := ["unified2_mcp.core", "unified2_mcp.core.config"]
    names := ["annotations", "logging", "dataclass", "Any", "Dict", "Protocol", "Settings",
      "CapabilityContext", "Capability"] },
  { name := "unified2_mcp.core.config", hasDoc := true
    needs := ["unified2_mcp.core"]
    names := ["annotations", "json", "os", "List", "Mapping", "Optional", "DEFAULT_CAPABILITIES",
      "Settings"] },
  { name := "unified2_mcp.core.decoder"
    needs := ["unified2_mcp.core", "unified2_mcp.core.errors", "unified2_mcp.core.models",
      "unified2_mcp.core.wire"]
    names := ["annotations", "struct", "Tuple", "DecodingError", "EventRecord", "ExtraDataRecord",
      "PacketRecord", "EVENT_ADDRS_IP4", "EVENT_ADDRS_IP6", "EVENT_MID", "EVENT_PREAMBLE",
      "EVENT_V2_TAIL", "EXTRA_DATA_HEADER", "PACKET_HEADER", "RecordType", "_unpack",
      "decode_event", "decode_packet", "decode_extra_data"] },
  { name := "unified2_mcp.core.dispatch"
    needs := ["unified2_mcp.core", "unified2_mcp.core.decoder", "unified2_mcp.core.framer",
      "unified2_mcp.core.models", "unified2_mcp.core.wire"]
    names := ["annotations", "BinaryIO", "Iterator", "Union", "decode_event", "decode_extra_data",
      "decode_packet", "read_raw_record", "DecodedRecord", "RawRecord", "ReadStatus",
      "UnknownRecord", "RecordType", "decode_raw_record", "read_record", "iter_records"] },
  { name := "unified2_mcp.core.errors"
    needs := ["unified2_mcp.core"]
    names := ["annotations", "Optional", "Unified2Error", "DecodingError"] },
  { name := "unified2_mcp.core.framer"
    needs := ["unified2_mcp.core", "unified2_mcp.core.models", "unified2_mcp.core.wire"]
    names := ["annotations", "io", "BinaryIO", "Union", "RawHeader", "RawRecord", "ReadStatus",
      "RECORD_HEADER", "RECORD_HEADER_LEN", "_read_upto", "read_raw_record"] },
  { name := "unified2_mcp.core.models"
    needs := ["unified2_mcp.core", "unified2_mcp.core.wire"]
    names := ["annotations", "ipaddress", "dataclass", "Enum", "Any", "ClassVar", "Dict",
      "Optional", "Union", "RecordType", "ReadStatus", "RawHeader", "RawRecord", "EventRecord",
      "PacketRecord", "ExtraDataRecord", "UnknownRecord", "DecodedRecord"] },
  { name := "unified2_mcp.core.queue"
    needs := ["unified2_mcp.core", "unified2_mcp.core.models"]
    names := ["annotations", "deque", "Deque", "List", "Optional", "DecodedRecord",
      "RecordQueue"] },
  { name := "unified2_mcp.core.registry"
    needs := ["unified2_mcp.core", "unified2_mcp.core.capability_base"]
    names := ["annotations", "importlib", "logging", "Dict", "List", "Capability", "logger",
      "DEFAULT_FACTORY", "CapabilityRegistry"] },
  { name := "unified2_mcp.core.server"
    needs := ["unified2_mcp.core", "unified2_mcp.core.capability_base", "unified2_mcp.core.config",
      "unified2_mcp.core.registry", "unified2_mcp.core.wire"]
    names := ["annotations", "logging", "Any", "Dict", "List", "Optional", "FastMCP",
      "CapabilityContext", "Settings", "CapabilityRegistry", "EXTRA_DATA_RECORD_HDR_LEN",
      "PACKET_RECORD_HDR_LEN", "RecordType", "event_body_len", "logger", "describe_record_types",
      "Unified2MCPServer"] },
  { name := "unified2_mcp.core.tail"
    needs := ["unified2_mcp.core", "unified2_mcp.core.dispatch", "unified2_mcp.core.errors",
      "unified2_mcp.core.models"]
    names := ["annotations", "io", "logging", "Path", "Any", "BinaryIO", "Dict", "List", "Optional",
      "Union", "read_record", "DecodingError", "DecodedRecord", "ReadStatus", "UnknownRecord",
      "logger", "Unified2Tailer"] },
  { name := "unified2_mcp.core.wire"
    needs := ["unified2_mcp.core"]
    names := ["annotations", "struct", "IntEnum", "Optional", "RecordType", "_EVENT_TYPES",
      "is_event_type", "RECORD_HEADER", "EVENT_PREAMBLE", "EVENT_ADDRS_IP4", "EVENT_ADDRS_IP6",
      "EVENT_MID", "EVENT_V2_TAIL", "PACKET_HEADER", "EXTRA_DATA_HEADER", "RECORD_HEADER_LEN",
      "EVENT_PREAMBLE_LEN", "PACKET_RECORD_HDR_LEN", "EXTRA_DATA_RECORD_HDR_LEN",
      "event_body_len"] },
  { name := "unified2_mcp.utils", isPackage := true
    needs := ["unified2_mcp"] },
  { name := "unified2_mcp.utils.logging", hasDoc := true
    needs := ["unified2_mcp.utils"]
    names := ["json", "logging", "sys", "datetime", "timezone", "JSONFormatter",
      "configure_logging"] }]

/-- All modules: one that holds others is also found without them, under a second name. -/
def modules : List Module :=
  sources ++ (sources.filter Module.isPackage).map fun package =>
    { package with
      name := package.name ++ ".__init__", isPackage := false
      needs := package.name :: package.needs }

/-- The module of a name. -/
def module? (name : CodeText) : Option Module :=
  modules.find? fun found => CodeText.ofString found.name = name

/-- The modules on the way to a name, the outermost first, and why the way ends early if it does. -/
def search : (found : Option Module) → (name : CodeText) → (steps : List CodeText) →
    List Module × Option ImportError
  | _, _, [] => ([], none)
  | found, name, step :: rest =>
    -- A step leads from one module to another that stands in it.
    let next := match found with
      | some _ => name ++ .char '.' :: step
      | none => step
    -- What was found may be unable to hold other modules.
    if found.any (!·.isPackage) then ([], some (.noPackage next name))
    else match module? next with
      | some found =>
        let (others, failure) := search (some found) next rest
        (found :: others, failure)
      | none => ([], some (.noModule next))

/-- The names that every module has. -/
def commonNames : List String :=
  ["__annotations__", "__builtins__", "__cached__", "__class__", "__delattr__", "__dict__",
   "__dir__", "__doc__", "__eq__", "__file__", "__format__", "__ge__", "__getattribute__",
   "__getstate__", "__gt__", "__hash__", "__init__", "__init_subclass__", "__le__",
   "__loader__", "__lt__", "__name__", "__ne__", "__new__", "__package__", "__reduce__",
   "__reduce_ex__", "__repr__", "__setattr__", "__sizeof__", "__spec__", "__str__",
   "__subclasshook__"]

end Catalog

/-- The names of the modules that were imported so far. -/
abbrev Imported := List String

namespace Imported

/-- What is imported after modules of these names, and all that they need, one name at a step. -/
def bringWithin : (steps : Nat) → List String → Imported → Imported
  | 0, _, imported | _, [], imported => imported
  | steps + 1, name :: rest, imported =>
    -- A module is run once, and so are those that it needs.
    if name ∈ imported then bringWithin steps rest imported
    else match Catalog.module? (.ofString name) with
      | some found => bringWithin steps (found.needs ++ rest) (imported ++ [name])
      | none => bringWithin steps rest imported

/-- What is imported after a module of a name, and all that it needs. -/
def bring (imported : Imported) (name : String) : Imported :=
  -- A step takes off one name, and no module puts its needs there twice.
  bringWithin (1 + (Catalog.modules.flatMap Module.needs).length) [name] imported

/-- Imports the module of a name. Those on the way to it are imported even if it is not found. -/
def findModule (name : CodeText) : Errand Imported Module := fun imported =>
  if name.head? = some (.char '.') then
    ⟨.error (ImportError.relative name).loadError, [], imported⟩
  else
    -- A module in another is only looked for once that one was imported.
    let (way, failure) := Catalog.search none [] (name.splitAt '.')
    let result := match failure, way.getLast? with
      | none, some found => .ok found
      | some error, _ => .error error.loadError
      | none, none => .error (ImportError.noModule name).loadError
    ⟨result, [], (way.map Module.name).foldl bring imported⟩

/-- The member that a module has under a name. -/
def member? (imported : Imported) (home : Module) (name : CodeText) : Option Member :=
  -- Names that differ from module to module come first.
  if name = CodeText.ofString ImportPath.defaultMember then home.factory.map .factory
  else if name = CodeText.ofString "__doc__" then
    some (.value (if home.hasDoc then "str" else "NoneType"))
  else if name = CodeText.ofString "__path__" then
    if home.isPackage then some (.value "list") else none
  -- A module that stands in another is a member of that one as soon as it was imported.
  else if imported.any fun inner =>
      CodeText.ofString inner = CodeText.ofString home.name ++ .char '.' :: name then
    some (.value "module")
  else
    -- Every other name stands for the same thing in all modules that have it.
    ((home.names ++ Catalog.commonNames).find? fun found => CodeText.ofString found = name).bind
      Member.ofName?

/-- The member that a module has under a name, if it has one. -/
def getMember (home : Module) (name : CodeText) : Errand Imported Member := fun imported =>
  match member? imported home name with
  | some member => ⟨.ok member, [], imported⟩
  | none => ⟨.error (ImportError.noMember home.name name).loadError, [], imported⟩

/-- All modules under their own names. -/
def everything : Imported := Catalog.sources.map Module.name

end Imported

end Unified2
