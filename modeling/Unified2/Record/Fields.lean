import Unified2.Address
import Unified2.Record.Basic

/-! A record as named texts and numbers. -/

namespace Unified2

/-- The value of one named field. -/
inductive FieldValue
  | text (text : String)
  | number (number : Int)
  | flag (value : Bool)
  /-- Something that was never set, such as a label. -/
  | absent
  deriving DecidableEq, Repr

/-- Named fields in their order. -/
abbrev FieldList := List (String × FieldValue)

/-- A label as a field. -/
def FieldValue.ofLabel : Option Int → FieldValue
  | some label => number label
  | none => absent

/-- A text as a field, if there is one. -/
def FieldValue.ofText : Option String → FieldValue
  | some it => text it
  | none => absent

open FieldValue

/-- The source address of an event. -/
def Event.sourceAddress (event : Event) : Except NoAddress Address := Address.ofBytes event.source

/-- The destination address of an event. -/
def Event.destinationAddress (event : Event) : Except NoAddress Address :=
  Address.ofBytes event.destination

/-- Whether the source address has sixteen bytes. -/
def Event.isIp6 (event : Event) : Bool := event.source.length == 16

/-- The fields of an event; labels are listed for the second-version types only. -/
def Event.fieldList (event : Event) : Except NoAddress FieldList := do
  -- If neither of the two is an address, the error is about the source.
  let source ← event.sourceAddress
  let destination ← event.destinationAddress
  return [
    ("kind", text RecordKind.event.name),
    ("record_type", number event.type.tag),
    ("sensor_id", number event.sensorId),
    ("event_id", number event.eventId),
    ("event_second", number event.second),
    ("event_microsecond", number event.microsecond),
    ("signature_id", number event.signatureId),
    ("generator_id", number event.generatorId),
    ("signature_revision", number event.signatureRevision),
    ("classification_id", number event.classificationId),
    ("priority", number event.priority),
    -- Addresses are shown as texts, whatever their width.
    ("ip_source", text source.text),
    ("ip_destination", text destination.text),
    ("sport_itype", number event.sourcePort),
    ("dport_icode", number event.destinationPort),
    ("protocol", number event.protocol),
    ("impact_flag", number event.impactFlag),
    ("impact", number event.impact),
    ("blocked", number event.blocked)] ++
    -- A label that was never set is listed all the same, as absent.
    if event.type.isV2 then
      [("mpls_label", ofLabel event.mplsLabel), ("vlan_id", ofLabel event.vlanId)]
    else []

/-- The fields of a packet, its data in hexadecimal. -/
def Packet.fieldList (packet : Packet) : FieldList := [
  ("kind", text RecordKind.packet.name),
  ("record_type", number RecordType.packet.tag),
  ("sensor_id", number packet.sensorId),
  ("event_id", number packet.eventId),
  ("event_second", number packet.eventSecond),
  ("packet_second", number packet.second),
  ("packet_microsecond", number packet.microsecond),
  ("linktype", number packet.linkType),
  ("length", number packet.length),
  ("data", text (hexText packet.data))]

/-- The fields of extra data, its data in hexadecimal. -/
def ExtraData.fieldList (extra : ExtraData) : FieldList := [
  ("kind", text RecordKind.extraData.name),
  ("record_type", number RecordType.extraData.tag),
  ("event_type", number extra.eventType),
  ("event_length", number extra.eventLength),
  ("sensor_id", number extra.sensorId),
  ("event_id", number extra.eventId),
  ("event_second", number extra.eventSecond),
  ("type", number extra.type),
  ("data_type", number extra.dataType),
  ("data_length", number extra.dataLength),
  ("data", text (hexText extra.data))]

/-- The fields of a record; only an event built with bytes that are no address has none. -/
def Record.fieldList : Record → Except NoAddress FieldList
  | .event body => body.fieldList
  | .packet body => .ok body.fieldList
  | .extraData body => .ok body.fieldList
  -- The body of an unknown record was given up when it was read.
  | .unknown tag => .ok [
      ("kind", text RecordKind.unknown.name),
      ("record_type", number tag)]

/-- One line of the listing of record types; only an event has addresses and labels to speak of. -/
def RecordType.Description.fieldList (description : RecordType.Description) : FieldList :=
  -- Either both traits are there or none is.
  let traits := match description.ip6, description.v2 with
    | some ip6, some v2 => [("ipv6", flag ip6), ("v2", flag v2)]
    | _, _ => []
  [("type", number description.tag), ("name", text description.name),
    ("kind", text description.kind.name)] ++ traits ++
    [("min_body_len", number description.minBodyLength)]

/-- The value of an answer: that of a field, or more of them in a list or under names. -/
inductive AnswerValue
  | field (value : FieldValue)
  | list (items : List AnswerValue)
  | members (members : List (String × AnswerValue))

namespace AnswerValue

/-- A text as an answer. -/
def text (it : String) : AnswerValue := field (.text it)

/-- A number as an answer. -/
def number (it : Int) : AnswerValue := field (.number it)

/-- Named fields as an answer. -/
def fields (fields : FieldList) : AnswerValue :=
  -- The order of the fields is that in which they are answered.
  members (fields.map fun (name, value) => (name, field value))

end AnswerValue

end Unified2
