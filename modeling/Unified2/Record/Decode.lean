import Unified2.Record.Basic

/-! Decoding of record bodies, and the one way in which it fails. -/

namespace Unified2

/-- Why a body is no record. -/
inductive BodyError
  /-- The first block that does not fit starts at the offset and needs more than the body has. -/
  | bodyTooShort (type : RecordType) (needed offset available : Nat)
  /-- The tag was to name an event and does not. -/
  | notAnEventType (tag : Int)
  deriving DecidableEq, Repr

namespace BodyError

/-- The wording of the error. -/
def message : BodyError → String
  | bodyTooShort type needed offset available =>
    s!"record type {type.tag}: need {needed} bytes at offset {offset}, body has {available}"
  | notAnEventType tag => s!"record type {tag} is not an event type"

/-- The tag that was to be decoded. -/
def recordType : BodyError → Int
  | bodyTooShort type _ _ _ => type.tag
  | notAnEventType tag => tag

/-- Where in the body the error is, if it is anywhere. -/
def offset : BodyError → Option Nat
  | bodyTooShort _ _ offset _ => some offset
  | notAnEventType _ => none

end BodyError

namespace Block

/-- The offset and the size of the first block that does not fit into the bytes available. -/
def firstMisfit (available : Nat) : (offset : Nat) → List Block → Option (Nat × Nat)
  | _, [] => none
  | offset, block :: rest =>
    -- A block is there as a whole or not at all, and the first that is not is the one named.
    if available < offset + block.size then some (offset, block.size)
    else firstMisfit available (offset + block.size) rest

end Block

/-- Lets a body pass that is long enough for every block of its type. -/
def RecordType.checkLength (type : RecordType) (body : Bytes) : Except BodyError Unit :=
  match Block.firstMisfit body.length 0 type.blocks with
  -- Bytes behind the last block are no error.
  | none => .ok ()
  | some (offset, needed) => .error (.bodyTooShort type needed offset body.length)

namespace BodyField

/-- Takes the next bytes of a body as they are. -/
def octets (width : Nat) : StateM Bytes Bytes := fun body => (body.take width, body.drop width)

/-- Takes the next bytes of a body as a big-endian number. -/
def number (width : Nat) : StateM Bytes Int := fun body =>
  (BigEndian.decode (body.take width), body.drop width)

/-- Takes a field only if it is present. -/
def optional (present : Bool) (field : StateM Bytes Int) : StateM Bytes (Option Int) :=
  if present then some <$> field else pure none

end BodyField

open BodyField in
/-- Reads the fields of an event in their order; what follows the last one is not looked at. -/
def Event.fields (type : RecordType) : StateM Bytes Event := do
  let sensorId ← number 4
  let eventId ← number 4
  let second ← number 4
  let microsecond ← number 4
  let signatureId ← number 4
  let generatorId ← number 4
  let signatureRevision ← number 4
  let classificationId ← number 4
  let priority ← number 4
  -- The addresses are what makes events of two lengths; the rest only moves.
  let source ← octets (if type.isIp6 then 16 else 4)
  let destination ← octets (if type.isIp6 then 16 else 4)
  let sourcePort ← number 2
  let destinationPort ← number 2
  let protocol ← number 1
  let impactFlag ← number 1
  let impact ← number 1
  let blocked ← number 1
  -- Labels end the body, so an event without them lacks nothing in between.
  let mplsLabel ← optional type.isV2 (number 4)
  let vlanId ← optional type.isV2 (number 2)
  return { type, sensorId, eventId, second, microsecond, signatureId, generatorId,
           signatureRevision, classificationId, priority, source, destination, sourcePort,
           destinationPort, protocol, impactFlag, impact, blocked, mplsLabel, vlanId }

open BodyField in
/-- Reads the fields of a packet; its data is whatever follows the header. -/
def Packet.fields : StateM Bytes Packet := do
  let sensorId ← number 4
  let eventId ← number 4
  let eventSecond ← number 4
  let second ← number 4
  let microsecond ← number 4
  let linkType ← number 4
  let length ← number 4
  let data ← get
  -- The length that was declared is kept beside the data, and not compared with it.
  return { sensorId, eventId, eventSecond, second, microsecond, linkType, length, data }

open BodyField in
/-- Reads the fields of extra data; its data is whatever follows the header. -/
def ExtraData.fields : StateM Bytes ExtraData := do
  let eventType ← number 4
  let eventLength ← number 4
  let sensorId ← number 4
  let eventId ← number 4
  let eventSecond ← number 4
  let type ← number 4
  let dataType ← number 4
  let dataLength ← number 4
  let data ← get
  return {
    eventType, eventLength, sensorId, eventId, eventSecond, type, dataType, dataLength, data }

/-- Decodes the body of an event of a known type. -/
def RecordType.decodeEvent (type : RecordType) (body : Bytes) : Except BodyError Event := do
  type.checkLength body
  return ((Event.fields type).run body).1

/-- Decodes a body as the event that a tag names. -/
def Event.decode (tag : Int) (body : Bytes) : Except BodyError Event :=
  match RecordType.ofTag? tag with
  | none => .error (.notAnEventType tag)
  -- A packet asked for as an event is refused before its length is looked at.
  | some type => if type.isEvent then type.decodeEvent body else .error (.notAnEventType tag)

/-- Decodes the body of a packet. -/
def Packet.decode (body : Bytes) : Except BodyError Packet := do
  RecordType.packet.checkLength body
  return (Packet.fields.run body).1

/-- Decodes the body of extra data. -/
def ExtraData.decode (body : Bytes) : Except BodyError ExtraData := do
  RecordType.extraData.checkLength body
  return (ExtraData.fields.run body).1

/-- Decodes the body of a record by its tag; a tag that names no type is an unknown record. -/
def Record.decode (tag : Int) (body : Bytes) : Except BodyError Record :=
  match RecordType.ofTag? tag with
  | none => .ok (.unknown tag)
  | some type =>
    match type.kind with
    | .packet => .packet <$> Packet.decode body
    | .extraData => .extraData <$> ExtraData.decode body
    -- Every type that is neither a packet nor extra data is one of the events.
    | .event | .unknown => .event <$> Event.decode tag body

end Unified2
