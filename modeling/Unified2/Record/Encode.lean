import Unified2.Record.Basic

/-! The bytes of a record body, written from the record. -/

namespace Unified2

namespace BodyField

/-- The big-endian bytes of a field. -/
def bytes (width : Nat) (value : Int) : Bytes := BigEndian.encode width value.toNat

end BodyField

open BodyField in
/-- The blocks of an event one after the other; a missing label counts as zero. -/
def Event.encode (event : Event) : Bytes :=
  bytes 4 event.sensorId ++ bytes 4 event.eventId ++ bytes 4 event.second ++
  bytes 4 event.microsecond ++ bytes 4 event.signatureId ++ bytes 4 event.generatorId ++
  bytes 4 event.signatureRevision ++ bytes 4 event.classificationId ++ bytes 4 event.priority ++
  event.source ++ event.destination ++
  bytes 2 event.sourcePort ++ bytes 2 event.destinationPort ++ bytes 1 event.protocol ++
  bytes 1 event.impactFlag ++ bytes 1 event.impact ++ bytes 1 event.blocked ++
  -- The other types have no room for labels, whether the event has some or not.
  if event.type.isV2 then
    bytes 4 (event.mplsLabel.getD 0) ++ bytes 2 (event.vlanId.getD 0)
  else []

open BodyField in
/-- The header of a packet followed by its data. -/
def Packet.encode (packet : Packet) : Bytes :=
  bytes 4 packet.sensorId ++ bytes 4 packet.eventId ++ bytes 4 packet.eventSecond ++
  bytes 4 packet.second ++ bytes 4 packet.microsecond ++ bytes 4 packet.linkType ++
  bytes 4 packet.length ++ packet.data

open BodyField in
/-- The header of extra data followed by its data. -/
def ExtraData.encode (extra : ExtraData) : Bytes :=
  bytes 4 extra.eventType ++ bytes 4 extra.eventLength ++ bytes 4 extra.sensorId ++
  bytes 4 extra.eventId ++ bytes 4 extra.eventSecond ++ bytes 4 extra.type ++
  bytes 4 extra.dataType ++ bytes 4 extra.dataLength ++ extra.data

end Unified2
