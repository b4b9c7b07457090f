import Unified2.Bytes
import Unified2.Record.Type

/-! Decoded records. -/

namespace Unified2

/-- An intrusion event. -/
structure Event where
  /-- The type of the body that the event came in. -/
  type : RecordType
  sensorId : Int := 0
  eventId : Int := 0
  second : Int := 0
  microsecond : Int := 0
  signatureId : Int := 0
  generatorId : Int := 0
  signatureRevision : Int := 0
  classificationId : Int := 0
  priority : Int := 0
  /-- The address bytes, four of them or sixteen. -/
  source : Bytes
  destination : Bytes
  /-- The source port, or the type of a control message. -/
  sourcePort : Int := 0
  /-- The destination port, or the code of a control message. -/
  destinationPort : Int := 0
  protocol : Int := 0
  impactFlag : Int := 0
  impact : Int := 0
  blocked : Int := 0
  /-- Set in second-version events only. -/
  mplsLabel : Option Int := none
  /-- Set in second-version events only. -/
  vlanId : Option Int := none
  deriving DecidableEq, Repr

/-- A captured packet that belongs to an event. -/
structure Packet where
  sensorId : Int
  eventId : Int
  eventSecond : Int
  second : Int
  microsecond : Int
  linkType : Int
  /-- The length that the sensor declared, whatever the length of the data is. -/
  length : Int
  data : Bytes
  deriving DecidableEq, Repr

/-- Further data that belongs to an event. -/
structure ExtraData where
  eventType : Int
  eventLength : Int
  sensorId : Int
  eventId : Int
  eventSecond : Int
  type : Int
  dataType : Int
  /-- The length that the sensor declared, whatever the length of the data is. -/
  dataLength : Int
  data : Bytes
  deriving DecidableEq, Repr

/-- A decoded record. -/
inductive Record
  | event (event : Event)
  | packet (packet : Packet)
  | extraData (data : ExtraData)
  /-- A well-framed record whose tag names no type. -/
  | unknown (tag : Int)
  deriving DecidableEq, Repr

/-- The kind of a record. -/
def Record.kind : Record → RecordKind
  | event _ => .event
  | packet _ => .packet
  | extraData _ => .extraData
  | unknown _ => .unknown

end Unified2
