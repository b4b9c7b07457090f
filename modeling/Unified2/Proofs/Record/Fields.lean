import Mathlib
import Unified2.Proofs.Address
import Unified2.Proofs.Record.Listing

/-! The named fields of a decoded record determine it. -/

namespace Unified2

/-- Named fields, found by their names alone. -/
abbrev FieldLookup := String → Option FieldValue

namespace FieldLookup

/-- What a list has under each name. -/
def of (fields : FieldList) : FieldLookup := fun name => fields.lookup name

variable (fields : FieldLookup)

/-- The number in a field. -/
def number? (name : String) : Option Int :=
  match fields name with
  | some (.number number) => some number
  | _ => none

/-- The record type that a field has the tag of. -/
def type? (name : String) : Option RecordType := (fields.number? name).bind RecordType.ofTag?

/-- The characters of the text in a field. -/
def chars? (name : String) : Option (List Char) :=
  match fields name with
  | some (.text text) => some text.toList
  | _ => none

/-- The bytes of the address that a field has the text of. -/
def address? (name : String) : Option Bytes :=
  ((fields.chars? name).bind Address.ofChars?).map Address.bytes

/-- The bytes that a field has in hexadecimal. -/
def data? (name : String) : Option Bytes := (fields.chars? name).bind Bytes.ofHex?

end FieldLookup

/-- The event with these fields; it has the labels that there are fields of. -/
def Event.ofFields? (fields : FieldLookup) : Option Event := do
  return {
    type := ← fields.type? "record_type"
    sensorId := ← fields.number? "sensor_id"
    eventId := ← fields.number? "event_id"
    second := ← fields.number? "event_second"
    microsecond := ← fields.number? "event_microsecond"
    signatureId := ← fields.number? "signature_id"
    generatorId := ← fields.number? "generator_id"
    signatureRevision := ← fields.number? "signature_revision"
    classificationId := ← fields.number? "classification_id"
    priority := ← fields.number? "priority"
    source := ← fields.address? "ip_source"
    destination := ← fields.address? "ip_destination"
    sourcePort := ← fields.number? "sport_itype"
    destinationPort := ← fields.number? "dport_icode"
    protocol := ← fields.number? "protocol"
    impactFlag := ← fields.number? "impact_flag"
    impact := ← fields.number? "impact"
    blocked := ← fields.number? "blocked"
    mplsLabel := fields.number? "mpls_label"
    vlanId := fields.number? "vlan_id" }

/-- The packet with these fields. -/
def Packet.ofFields? (fields : FieldLookup) : Option Packet := do
  return {
    sensorId := ← fields.number? "sensor_id"
    eventId := ← fields.number? "event_id"
    eventSecond := ← fields.number? "event_second"
    second := ← fields.number? "packet_second"
    microsecond := ← fields.number? "packet_microsecond"
    linkType := ← fields.number? "linktype"
    length := ← fields.number? "length"
    data := ← fields.data? "data" }

/-- The extra data with these fields. -/
def ExtraData.ofFields? (fields : FieldLookup) : Option ExtraData := do
  return {
    eventType := ← fields.number? "event_type"
    eventLength := ← fields.number? "event_length"
    sensorId := ← fields.number? "sensor_id"
    eventId := ← fields.number? "event_id"
    eventSecond := ← fields.number? "event_second"
    type := ← fields.number? "type"
    dataType := ← fields.number? "data_type"
    dataLength := ← fields.number? "data_length"
    data := ← fields.data? "data" }

/-- The record with these fields, whose kind is one of them. -/
def Record.ofFields? (fields : FieldLookup) : Option Record := do
  let kind ← fields.chars? "kind"
  if kind = RecordKind.event.name.toList then .event <$> Event.ofFields? fields
  else if kind = RecordKind.packet.name.toList then .packet <$> Packet.ofFields? fields
  else if kind = RecordKind.extraData.name.toList then .extraData <$> ExtraData.ofFields? fields
  else if kind = RecordKind.unknown.name.toList then .unknown <$> fields.number? "record_type"
  else none

/-- Fields that an object can have: no name twice, and a text or a number under each. -/
structure FieldList.Complete (fields : FieldList) : Prop where
  nodup : (fields.map Prod.fst).Nodup
  present : ∀ field ∈ fields, field.2 ≠ .absent

/-- A record type is found by its tag in a field. -/
theorem FieldLookup.type?_of_tag {fields : FieldLookup} {name : String} {type : RecordType}
    (found : fields name = some (.number type.tag)) : fields.type? name = some type := by
  simp only [type?, number?, found, Option.bind_some]
  exact RecordType.ofTag?_eq_some_iff.mpr rfl

/-- Bytes in a field are found in it. -/
theorem FieldLookup.data?_of_text {fields : FieldLookup} {name : String} {bytes : Bytes}
    (found : fields name = some (.text (hexText bytes))) : fields.data? name = some bytes := by
  simp only [data?, chars?, found, Option.bind_some, Bytes.ofHex?_hexText]

/-- The bytes of an address in a field are found in it. -/
theorem FieldLookup.address?_of_text {fields : FieldLookup} {name : String} {bytes : Bytes}
    {address : Address} (made : Address.ofBytes bytes = .ok address)
    (found : fields name = some (.text address.text)) : fields.address? name = some bytes := by
  obtain ⟨read, same⟩ := Address.ofChars?_chars made
  simp only [address?, chars?, found, Address.text, String.toList_ofList, Option.bind_some, read,
    Option.map_some, same]

/-- A packet is rebuilt from its fields. -/
theorem Packet.ofFields?_fieldList (packet : Packet) :
    packet.fieldList.Complete ∧
      Record.ofFields? (.of packet.fieldList) = some (.packet packet) := by
  refine ⟨⟨by simp [fieldList], by simp [fieldList]⟩, ?_⟩
  have data : (FieldLookup.of packet.fieldList).data? "data" = some packet.data :=
    FieldLookup.data?_of_text rfl
  have kind : (FieldLookup.of packet.fieldList).chars? "kind" =
    some RecordKind.packet.name.toList := rfl
  -- All fields but the data are numbers.
  rw [Record.ofFields?, kind]
  simp only [Packet.ofFields?, data]
  rfl

/-- Extra data is rebuilt from its fields. -/
theorem ExtraData.ofFields?_fieldList (extra : ExtraData) :
    extra.fieldList.Complete ∧
      Record.ofFields? (.of extra.fieldList) = some (.extraData extra) := by
  refine ⟨⟨by simp [fieldList], by simp [fieldList]⟩, ?_⟩
  have data : (FieldLookup.of extra.fieldList).data? "data" = some extra.data :=
    FieldLookup.data?_of_text rfl
  -- The kind says which of the four readings is the right one.
  have kind : (FieldLookup.of extra.fieldList).chars? "kind" =
    some RecordKind.extraData.name.toList := rfl
  rw [Record.ofFields?, kind]
  simp only [ExtraData.ofFields?, data]
  rfl

/-- The source of a well-formed event is an address. -/
theorem Event.WellFormed.exists_source {event : Event} (formed : event.WellFormed) :
    ∃ address, Address.ofBytes event.source = .ok address := by
  refine Address.exists_ofBytes ?_
  rw [formed.source, RecordType.addressWidth]
  cases event.type.isIp6 <;> simp

/-- The destination of a well-formed event is an address. -/
theorem Event.WellFormed.exists_destination {event : Event} (formed : event.WellFormed) :
    ∃ address, Address.ofBytes event.destination = .ok address := by
  refine Address.exists_ofBytes ?_
  rw [formed.destination, RecordType.addressWidth]
  cases event.type.isIp6 <;> simp

/-- The fields that only events with labels have. -/
def Event.labelFields (event : Event) : FieldList :=
  if event.type.isV2 then
    [("mpls_label", .ofLabel event.mplsLabel), ("vlan_id", .ofLabel event.vlanId)]
  else []

/-- The labels of a well-formed event are in the fields for them, or missing like these. -/
theorem Event.WellFormed.labelFields {event : Event} (formed : event.WellFormed) :
    (∀ field ∈ event.labelFields, field.2 ≠ .absent) ∧
    (FieldLookup.of event.labelFields).number? "mpls_label" = event.mplsLabel ∧
    (FieldLookup.of event.labelFields).number? "vlan_id" = event.vlanId := by
  obtain ⟨mpls, -⟩ := formed.mplsLabel
  obtain ⟨vlan, -⟩ := formed.vlanId
  unfold Event.labelFields
  cases v2 : event.type.isV2 with
  | false =>
    -- Such an event has no labels, and no fields for them.
    rw [v2, Option.isSome_eq_false_iff, Option.isNone_iff_eq_none] at mpls vlan
    rw [mpls, vlan]
    exact ⟨by simp, rfl, rfl⟩
  | true =>
    rw [v2] at mpls vlan
    -- Such an event has both labels, each a number in its field.
    obtain ⟨mplsLabel, mpls⟩ := Option.isSome_iff_exists.mp mpls
    obtain ⟨vlanId, vlan⟩ := Option.isSome_iff_exists.mp vlan
    rw [mpls, vlan]
    exact ⟨by simp [FieldValue.ofLabel], rfl, rfl⟩

/-- A well-formed event is rebuilt from its fields, which it has. -/
theorem Event.WellFormed.ofFields?_fieldList {event : Event} (formed : event.WellFormed) :
    ∃ fields, event.fieldList = .ok fields ∧ fields.Complete ∧
      Record.ofFields? (.of fields) = some (.event event) := by
  obtain ⟨source, sourced⟩ := formed.exists_source
  obtain ⟨destination, destined⟩ := formed.exists_destination
  obtain ⟨present, mpls, vlan⟩ := formed.labelFields
  simp only [fieldList, sourceAddress, destinationAddress, sourced, destined, bind,
    Except.bind, pure, Except.pure]
  refine ⟨_, rfl, ⟨?_, ?_⟩, ?_⟩
  · -- The labels come last, and their names differ from all the others.
    cases event.type.isV2 <;> simp
  · intro field member
    rcases List.mem_append.mp member with plain | label
    · clear member
      revert field
      simp
    · exact present field label
  · show (ofFields? _).map Record.event = _
    rw [ofFields?, FieldLookup.type?_of_tag, FieldLookup.address?_of_text sourced,
      FieldLookup.address?_of_text destined]
    rotate_left
    · rfl
    · rfl
    · rfl
    -- The other fields are numbers, and none of them has the name of a label.
    show some (Record.event { event with
      mplsLabel := (FieldLookup.of event.labelFields).number? "mpls_label"
      vlanId := (FieldLookup.of event.labelFields).number? "vlan_id" }) = _
    rw [mpls, vlan]

namespace Record

/-- An unknown record is rebuilt from its fields. -/
theorem ofFields?_unknown (tag : Int) :
    ∃ fields, fieldList (.unknown tag) = .ok fields ∧ fields.Complete ∧
      ofFields? (.of fields) = some (.unknown tag) :=
  ⟨_, rfl, ⟨by simp [RecordKind.name], by simp⟩, rfl⟩

/-- A decoded record is rebuilt from its fields, which it has. -/
theorem ofFields?_of_decode {tag : Int} {body : Bytes} {record : Record}
    (decoded : decode tag body = .ok record) :
    ∃ fields, record.fieldList = .ok fields ∧ fields.Complete ∧
      ofFields? (.of fields) = some record := by
  -- The tag decides what kind of record it is, and a record of each kind is rebuilt.
  cases named : RecordType.ofTag? tag with
  | none =>
    obtain rfl := Except.ok.inj ((decode_of_ofTag?_eq_none named body).symm.trans decoded)
    exact ofFields?_unknown tag
  | some type =>
    obtain rfl := RecordType.ofTag?_eq_some_iff.mp named
    rcases decode_tag_cases type body with ⟨-, needed, offset, refused⟩ | ⟨-, other, same, typed⟩
    · -- A body that is too short is not decoded.
      rw [refused] at decoded
      cases decoded
    · obtain rfl := Except.ok.inj (same.symm.trans decoded)
      cases other with
      | packet packet => exact ⟨_, rfl, packet.ofFields?_fieldList⟩
      | extraData extra => exact ⟨_, rfl, extra.ofFields?_fieldList⟩
      | unknown tag => exact ofFields?_unknown tag
      | event event => exact typed.2.ofFields?_fieldList

/-- Decoded records can be shown together. -/
theorem exists_mapM_fieldList {records : List Record}
    (decoded : ∀ record ∈ records, ∃ tag body, decode tag body = .ok record) :
    ∃ lists, records.mapM fieldList = .ok lists ∧ lists.length = records.length := by
  induction records with
  | nil => exact ⟨[], rfl, rfl⟩
  | cons record records ih =>
    -- The first record has fields, and so have the others.
    obtain ⟨tag, body, same⟩ := decoded record List.mem_cons_self
    obtain ⟨fields, shown, -⟩ := ofFields?_of_decode same
    obtain ⟨lists, shownToo, lengths⟩ := ih fun other member => decoded other (.tail _ member)
    refine ⟨fields :: lists, ?_, by simp [lengths]⟩
    simp only [List.mapM_cons, shown, shownToo, bind, Except.bind, pure, Except.pure]

end Record

end Unified2
