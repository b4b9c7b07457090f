import Unified2.Capability.Importer

/-! What the modules of the program hold, and what comes of calling it without arguments. -/

namespace Unified2

/-- The one name of an object that is no text. -/
inductive Nothing
  | nothing
  deriving DecidableEq, Repr

instance : ToString Nothing := ⟨fun _ => "None"⟩

/-- An object that a call gave: its kind, and its name if it has one. -/
structure Made where
  typeName : String
  name : Option (ObjectName Nothing) := none
  deriving DecidableEq, Repr

/-- Something that a module holds under a name. -/
inductive Member
  | factory (factory : Factory)
  /-- Sets up the log for `INFO` and gives the logger of the root component. -/
  | logSetup
  /-- Makes a host that goes by the settings of the process. -/
  | host
  /-- Makes a host like that, serves, and gives nothing. -/
  | program
  /-- Makes a server of the service that hosts use. -/
  | server
  /-- Gives something that is no capability. -/
  | made (made : Made)
  /-- Something that cannot be called. -/
  | value (typeName : String)
  /-- Cannot be called without arguments. -/
  | function (name : String) (parameters : List String)
  /-- Cannot be called, for a reason of its own. -/
  | refusing (reason : String)
  deriving DecidableEq, Repr

/-- Members and the names that they stand under, in whichever module. -/
def Member.names : List (Member × List String) := [
  (.factory .pageReader, ["FileReadCapability"]),
  (.factory .collector, ["FileTailCapability"]),
  -- These do something when they are called: they set up the log, make a host, or serve.
  (.logSetup, ["configure_logging"]),
  (.host, ["Unified2MCPServer"]),
  (.program, ["main"]),
  (.server, ["FastMCP"]),
  (.made ⟨"PosixPath", some (.text "")⟩, ["Path"]),
  -- A stream that is no more than a type has a name all the same, which is no text.
  (.made ⟨"BinaryIO", some (.other .nothing)⟩, ["BinaryIO"]),
  (.made { typeName := "CapabilityRegistry" }, ["CapabilityRegistry"]),
  (.made { typeName := "JSONFormatter" }, ["JSONFormatter"]),
  (.made { typeName := "NoneType" }, ["__init_subclass__"]),
  (.made { typeName := "NotImplementedType" }, ["__subclasshook__"]),
  (.made { typeName := "Protocol" }, ["Protocol"]),
  (.made { typeName := "RecordQueue" }, ["RecordQueue"]),
  (.made { typeName := "Settings" }, ["Settings"]),
  (.made { typeName := "Unified2Error" }, ["Unified2Error"]),
  (.made { typeName := "collections.deque" }, ["Deque", "deque"]),
  (.made { typeName := "dict" }, ["__getstate__"]),
  (.made { typeName := "function" }, ["dataclass"]),
  (.made { typeName := "int" }, ["__hash__", "__sizeof__"]),
  (.made { typeName := "list" }, ["__dir__", "describe_record_types"]),
  (.made { typeName := "str" }, ["__repr__", "__str__"]),
  -- What is no function and no class is there, but not callable.
  (.value "Logger", ["logger"]),
  (.value "ModuleSpec", ["__spec__"]),
  (.value "SourceFileLoader", ["__loader__"]),
  (.value "_Feature", ["annotations"]),
  (.value "_struct.Struct", ["EVENT_ADDRS_IP4", "EVENT_ADDRS_IP6", "EVENT_MID",
    "EVENT_PREAMBLE", "EVENT_V2_TAIL", "EXTRA_DATA_HEADER", "PACKET_HEADER", "RECORD_HEADER"]),
  (.value "dict", ["__annotations__", "__builtins__", "__dict__"]),
  (.value "frozenset", ["_EVENT_TYPES"]),
  (.value "int", ["EVENT_PREAMBLE_LEN", "EXTRA_DATA_RECORD_HDR_LEN", "PACKET_RECORD_HDR_LEN",
    "RECORD_HEADER_LEN"]),
  (.value "list", ["DEFAULT_CAPABILITIES", "__all__"]),
  (.value "module", ["asyncio", "importlib", "io", "ipaddress", "json", "logging", "os",
    "struct", "sys"]),
  (.value "str", ["DEFAULT_FACTORY", "__cached__", "__file__", "__name__", "__package__"]),
  -- What needs arguments tells which, in their order.
  (.function "CapabilityContext.__init__" ["settings", "logger"], ["CapabilityContext"]),
  (.function "DecodingError.__init__" ["message"], ["DecodingError"]),
  (.function "EnumType.__call__" ["value"], ["Enum", "IntEnum", "ReadStatus", "RecordType"]),
  (.function "EventRecord.__init__" ["record_type", "sensor_id", "event_id", "event_second",
    "event_microsecond", "signature_id", "generator_id", "signature_revision",
    "classification_id", "priority", "ip_source", "ip_destination", "sport_itype",
    "dport_icode", "protocol", "impact_flag", "impact", "blocked"], ["EventRecord"]),
  (.function "ExtraDataRecord.__init__" ["event_type", "event_length", "sensor_id", "event_id",
    "event_second", "type", "data_type", "data_length", "data"], ["ExtraDataRecord"]),
  (.function "PacketRecord.__init__" ["sensor_id", "event_id", "event_second",
    "packet_second", "packet_microsecond", "linktype", "length", "data"], ["PacketRecord"]),
  (.function "RawHeader.__init__" ["type", "length"], ["RawHeader"]),
  (.function "RawRecord.__init__" ["type", "data"], ["RawRecord"]),
  (.function "Unified2Tailer.__init__" ["path"], ["Unified2Tailer"]),
  (.function "UnknownRecord.__init__" ["type"], ["UnknownRecord"]),
  (.function "_read_upto" ["stream", "size"], ["_read_upto"]),
  (.function "_unpack" ["layout", "data", "off", "record_type"], ["_unpack"]),
  (.function "decode_event" ["record_type", "data"], ["decode_event"]),
  (.function "decode_extra_data" ["data"], ["decode_extra_data"]),
  (.function "decode_packet" ["data"], ["decode_packet"]),
  (.function "decode_raw_record" ["raw"], ["decode_raw_record"]),
  (.function "event_body_len" ["record_type"], ["event_body_len"]),
  (.function "is_event_type" ["value"], ["is_event_type"]),
  (.function "iter_records" ["stream"], ["iter_records"]),
  (.function "read_raw_record" ["stream"], ["read_raw_record"]),
  (.function "read_record" ["stream"], ["read_record"]),
  -- These refuse in words of their own.
  (.refusing "Any cannot be instantiated", ["Any"]),
  (.refusing "Can't instantiate abstract class Iterator with abstract method __next__",
    ["Iterator"]),
  (.refusing ("Can't instantiate abstract class Mapping with abstract methods " ++
    "__getitem__, __iter__, __len__"), ["Mapping"]),
  (.refusing "Cannot instantiate typing.ClassVar", ["ClassVar"]),
  (.refusing "Cannot instantiate typing.Optional", ["Optional"]),
  (.refusing "Cannot instantiate typing.Union", ["DecodedRecord", "Union"]),
  (.refusing "Protocols cannot be instantiated", ["Capability"]),
  (.refusing "Type Dict cannot be instantiated; use dict() instead", ["Dict"]),
  (.refusing "Type List cannot be instantiated; use list() instead", ["List"]),
  (.refusing "Type Tuple cannot be instantiated; use tuple() instead", ["Tuple"]),
  (.refusing "__format__() takes exactly one argument (0 given)", ["__format__"]),
  (.refusing "__reduce_ex__() takes exactly one argument (0 given)", ["__reduce_ex__"]),
  (.refusing "cannot pickle 'module' object", ["__reduce__"]),
  (.refusing "expected 1 argument, got 0", ["__delattr__", "__eq__", "__ge__",
    "__getattribute__", "__gt__", "__le__", "__lt__", "__ne__"]),
  (.refusing " expected 2 arguments, got 0", ["__setattr__"]),
  (.refusing "function missing required argument 'year' (pos 1)", ["datetime"]),
  (.refusing "module() missing required argument 'name' (pos 1)", ["__class__", "__init__"]),
  (.refusing "module.__new__(): not enough arguments", ["__new__"]),
  (.refusing "timezone() missing required argument 'offset' (pos 1)", ["timezone"])]

/-- The member that a name stands for. -/
def Member.ofName? (name : String) : Option Member :=
  (Member.names.find? fun (_, names) => names.contains name).map (·.1)

/-- Texts as an enumeration. -/
def enumeration : List String → String
  | [] => ""
  | [only] => only
  | [first, last] => s!"{first} and {last}"
  -- From three on there is a comma before the last, too.
  | texts => ", ".intercalate texts.dropLast ++ ", and " ++ texts.getLast?.getD ""

/-- Why a member cannot be called without arguments. -/
inductive CallError
  | notCallable (typeName : String)
  | missingArguments (name : String) (parameters : List String)
  | refused (reason : String)
  /-- A host makes a host that makes a host, without an end. -/
  | endless
  deriving DecidableEq, Repr

namespace CallError

/-- The kind of the error. -/
def kind : CallError → String
  -- All other calls fail for their arguments.
  | endless => "RecursionError"
  | _ => "TypeError"

/-- The wording of the error. -/
def message : CallError → String
  | notCallable typeName => s!"'{typeName}' object is not callable"
  | missingArguments name parameters =>
    -- The number decides the noun, as in a sentence.
    let noun := if parameters.length = 1 then "argument" else "arguments"
    s!"{name}() missing {parameters.length} required positional {noun}: " ++
      enumeration (parameters.map fun parameter => s!"'{parameter}'")
  | refused reason => reason
  | endless => "maximum recursion depth exceeded while calling a Python object"

/-- The error as one that a program meets. -/
def loadError (error : CallError) : LoadError := .outside error.kind error.message

end CallError

namespace Made

/-- Why something is asked of an object that it does not have. -/
def missing (made : Made) (memberName : String) : LoadError :=
  .outside "AttributeError" s!"'{made.typeName}' object has no attribute '{memberName}'"

/-- The name of an object, if it has one. -/
def nameOrError (made : Made) : Except LoadError (ObjectName Nothing) :=
  match made.name with
  | some name => .ok name
  | none => .error (made.missing "name")

/-- Names in order, where one is no text: nothing can be compared with that one. -/
def sortNames : List (ObjectName Nothing) → Except LoadError (List (ObjectName Nothing))
  | first :: _ :: _ =>
    -- The first comparison with that name fails, and there it is on the right if it came first.
    let kinds := match first with
      | .other _ => "'str' and 'NoneType'"
      | .text _ => "'NoneType' and 'str'"
    .error (.outside "TypeError" ("'<' not supported between instances of " ++ kinds))
  | names => .ok names

end Made

end Unified2
