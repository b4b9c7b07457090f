import Unified2.Proofs.Record.Layout
import Unified2.Record.Fields

/-! The listing of record types says of every tag and every body whether the body decodes, and what
kind of record it decodes to. -/

namespace Unified2

/-- The listing has one line about every record type, and no other line. -/
theorem RecordType.mem_descriptions_iff {row : RecordType.Description} :
    row ∈ RecordType.descriptions ↔ ∃ type : RecordType, type.describe = row := by
  constructor
  · intro member
    obtain ⟨type, -, same⟩ := List.mem_map.mp member
    exact ⟨type, same⟩
  · rintro ⟨type, rfl⟩
    exact List.mem_map_of_mem (by cases type <;> decide)

namespace Record

/-- The tag that a record is shown with. -/
def tag : Record → Int
  | .event body => body.type.tag
  | .packet _ => RecordType.packet.tag
  | .extraData _ => RecordType.extraData.tag
  | .unknown tag => tag

/-- A record that a body of this type can hold. -/
def OfType (type : RecordType) : Record → Prop
  | .event body => body.type = type ∧ body.WellFormed
  | .packet _ => type = .packet
  | .extraData _ => type = .extraData
  | .unknown _ => False

/-- By the tag of an event type a body is decoded as an event. -/
theorem decode_of_isEvent {type : RecordType} (isEvent : type.isEvent = true) (body : Bytes) :
    decode type.tag body = .event <$> type.decodeEvent body := by
  rw [← Event.decode_tag isEvent]
  cases type with
  | packet | extraData => exact absurd isEvent (by decide)
  | event | eventIp6 | eventV2 | eventIp6V2 => rfl

/-- By the tag of a type only the length of a body can be wrong; else it holds a record of the
type. -/
theorem exists_decode_eq (type : RecordType) (body : Bytes) :
    ∃ record : Record, decode type.tag body = (fun _ => record) <$> type.checkLength body ∧
      (type.minBodyLength ≤ body.length → record.OfType type) := by
  by_cases isEvent : type.isEvent = true
  · refine ⟨.event ((Event.fields type).run body).1, ?_, fun long => ?_⟩
    · rw [decode_of_isEvent isEvent, RecordType.decodeEvent]
      cases type.checkLength body <;> rfl
    · rw [RecordType.minBodyLength_of_isEvent isEvent] at long
      obtain ⟨⟨typed, formed, -⟩, -⟩ := Event.takes_fields isEvent body long
      exact ⟨typed, formed⟩
  · -- What packets and extra data hold is not told by their type.
    cases type with
    | packet =>
      refine ⟨.packet (Packet.fields.run body).1, ?_, fun _ => rfl⟩
      show Record.packet <$> Packet.decode body = _
      rw [Packet.decode]
      cases RecordType.packet.checkLength body <;> rfl
    | extraData =>
      refine ⟨.extraData (ExtraData.fields.run body).1, ?_, fun _ => rfl⟩
      show Record.extraData <$> ExtraData.decode body = _
      rw [ExtraData.decode]
      cases RecordType.extraData.checkLength body <;> rfl
    | event | eventIp6 | eventV2 | eventIp6V2 => exact absurd rfl isEvent

/-- By the tag of a type a body fails to decode if it is too short, and else holds a record of the
type. -/
theorem decode_tag_cases (type : RecordType) (body : Bytes) :
    (body.length < type.minBodyLength ∧ ∃ needed offset,
      decode type.tag body = .error (.bodyTooShort type needed offset body.length)) ∨
    (type.minBodyLength ≤ body.length ∧
      ∃ record, decode type.tag body = .ok record ∧ record.OfType type) := by
  -- Nothing but the check of the length can refuse the body.
  obtain ⟨record, decoded, typed⟩ := exists_decode_eq type body
  rw [decoded]
  rcases type.checkLength_cases body with ⟨long, passes⟩ | ⟨short, needed, offset, refused⟩
  · exact .inr ⟨long, record, by rw [passes]; rfl, typed long⟩
  · exact .inl ⟨short, needed, offset, by rw [refused]; rfl⟩

/-- A tag that names no type makes every body an unknown record. -/
theorem decode_of_ofTag?_eq_none {tag : Int} (unnamed : RecordType.ofTag? tag = none)
    (body : Bytes) : decode tag body = .ok (.unknown tag) := by
  simp only [decode, unnamed]

/-- A body is an unknown record exactly if its tag names no type, and shows that tag then. -/
theorem decode_eq_unknown_iff {tag shown : Int} {body : Bytes} :
    decode tag body = .ok (.unknown shown) ↔ shown = tag ∧ RecordType.ofTag? tag = none := by
  cases named : RecordType.ofTag? tag with
  | none => simp [decode_of_ofTag?_eq_none named, eq_comm]
  | some type =>
    -- What a body with the tag of a type decodes to is of that type.
    have same := RecordType.ofTag?_eq_some_iff.mp named
    rcases decode_tag_cases type body with ⟨-, _, _, refused⟩ | ⟨-, record, decoded, typed⟩
    · simp [← same, refused]
    · simp only [← same, decoded, reduceCtorEq, and_false, iff_false, Except.ok.injEq]
      rintro rfl
      exact typed

/-- A tag that names a type makes no body an unknown record. -/
theorem decode_tag_ne_unknown (type : RecordType) (body : Bytes) :
    decode type.tag body ≠ .ok (.unknown type.tag) := by
  intro unknown
  have unnamed := (decode_eq_unknown_iff.mp unknown).2
  rw [RecordType.ofTag?_eq_some_iff.mpr rfl] at unnamed
  cases unnamed

/-- A record is what a line of the listing announces. -/
structure Matches (record : Record) (row : RecordType.Description) : Prop where
  kind_eq : record.kind = row.kind
  tag_eq : record.tag = row.tag
  /-- The line tells of an event how wide its addresses are, and whether it has labels. -/
  event_matches : ∀ event, record = .event event → ∃ ip6 v2,
    row.ip6 = some ip6 ∧ row.v2 = some v2 ∧
      event.source.length = (if ip6 then 16 else 4) ∧
      event.destination.length = (if ip6 then 16 else 4) ∧ event.isIp6 = ip6 ∧
      event.mplsLabel.isSome = v2 ∧ event.vlanId.isSome = v2

/-- A record of a type is what the line about the type announces. -/
theorem OfType.matches_describe {record : Record} {type : RecordType}
    (typed : record.OfType type) : record.Matches type.describe := by
  cases record with
  | packet packet =>
    cases typed
    exact ⟨rfl, rfl, by simp⟩
  | extraData extra =>
    cases typed
    exact ⟨rfl, rfl, by simp⟩
  | unknown tag => exact typed.elim
  | event event =>
    obtain ⟨rfl, formed⟩ := typed
    refine ⟨?_, rfl, ?_⟩
    · exact (beq_iff_eq.mp formed.isEvent).symm
    · rintro _ ⟨⟩
      refine ⟨event.type.isIp6, event.type.isV2, by simp [RecordType.describe, formed.isEvent],
        by simp [RecordType.describe, formed.isEvent], formed.source, formed.destination, ?_,
        formed.mplsLabel.1, formed.vlanId.1⟩
      -- The width of the address tells the family.
      rw [Event.isIp6, formed.source, RecordType.addressWidth]
      cases event.type.isIp6 <;> rfl

/-- A tag that no line of the listing is about makes every body an unknown record, and no other tag
does; a body with the tag of a line decodes exactly if it is as long as the line says at least, and
then to what the line announces. -/
theorem decodes_as_listed (tag : Int) (body : Bytes) :
    (decode tag body = .ok (.unknown tag) ↔
      ∀ row ∈ RecordType.descriptions, (row.tag : Int) ≠ tag) ∧
    ∀ row ∈ RecordType.descriptions, (row.tag : Int) = tag →
      ((∃ error, decode tag body = .error error) ↔ body.length < row.minBodyLength) ∧
      (row.minBodyLength ≤ body.length →
        ∃ record, decode tag body = .ok record ∧ record.Matches row) := by
  constructor
  · constructor
    · rintro unknown row member rfl
      obtain ⟨type, rfl⟩ := RecordType.mem_descriptions_iff.mp member
      exact decode_tag_ne_unknown type body unknown
    · intro absent
      -- A type that the tag names would be listed.
      apply decode_of_ofTag?_eq_none
      refine Option.eq_none_iff_forall_ne_some.mpr fun type named => ?_
      exact absent type.describe (RecordType.mem_descriptions_iff.mpr ⟨type, rfl⟩)
        (RecordType.ofTag?_eq_some_iff.mp named)
  · rintro row member rfl
    obtain ⟨type, rfl⟩ := RecordType.mem_descriptions_iff.mp member
    show ((∃ error, decode type.tag body = .error error) ↔ body.length < type.minBodyLength) ∧
      (type.minBodyLength ≤ body.length →
        ∃ record, decode type.tag body = .ok record ∧ record.Matches type.describe)
    rcases decode_tag_cases type body with
      ⟨short, needed, offset, refused⟩ | ⟨long, record, decoded, typed⟩
    · exact ⟨⟨fun _ => short, fun _ => ⟨_, refused⟩⟩,
        fun long => absurd short (Nat.not_lt.mpr long)⟩
    · refine ⟨⟨?_, fun short => absurd short (Nat.not_lt.mpr long)⟩,
        fun _ => ⟨record, decoded, typed.matches_describe⟩⟩
      rintro ⟨error, refused⟩
      rw [decoded] at refused
      cases refused

end Record

end Unified2
