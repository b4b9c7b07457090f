import Unified2.Collector
import Unified2.Page

/-! Capabilities. -/

namespace Unified2

/-- What makes a capability. -/
inductive Factory
  | pageReader
  | collector
  deriving DecidableEq, Repr

/-- A capability. -/
inductive Capability
  | pageReader (reader : PageReader)
  | collector (collector : Collector)
  deriving DecidableEq, Repr

namespace Capability

/-- A new capability. -/
def make : Factory → Capability
  | .pageReader => pageReader {}
  -- Until a host hands it settings, a collector has its own defaults.
  | .collector => collector Collector.plain

/-- The name of a capability. -/
def name : Capability → String
  | pageReader _ => PageReader.name
  | collector _ => Collector.name

/-- Takes over the settings of a host. -/
def configure (settings : Settings) : Capability → Except QueueError Capability
  -- A reader has no use for settings; its limits come with each request.
  | pageReader reader => .ok (pageReader reader)
  | collector it => collector <$> it.configure settings

/-- The tools of a capability. -/
def tools : Capability → List String
  -- The tools of one capability share no name with those of the other.
  | pageReader _ => ["read_unified2"]
  | collector _ => ["start_collection", "stop_collection", "fetch_records"]

/-- What a capability tells about itself. -/
def status : Capability → FieldList
  | pageReader reader => reader.status
  | collector it => it.status

end Capability

end Unified2
