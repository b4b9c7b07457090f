import Unified2.Proofs.Record.Layout

/-! Packets and extra data are a header of words and whatever remains of their body behind it. -/

namespace Unified2

namespace BodyField

/-- Fields are read from all of a body as a value. -/
def ReadsAll {α : Type} (field : StateM Bytes α) (body : Bytes) (value : α) : Prop :=
  (field.run body).1 = value

/-- Fields take all of a body that has so many bytes at least, and of it and the value that they
read one thing is true. -/
def TakesAll {α : Type} (field : StateM Bytes α) (least : Nat) (agree : α → Bytes → Prop) : Prop :=
  ∀ body : Bytes, least ≤ body.length → agree (field.run body).1 body

section Sequence

variable {α β : Type} {field : StateM Bytes α} {next : α → StateM Bytes β}

/-- What remains is read as it is. -/
theorem readsAll_get (make : Bytes → β) (data : Bytes) :
    ReadsAll (get >>= fun data => pure (make data)) data (make data) := rfl

/-- What remains may be nothing at all. -/
theorem takesAll_get {make : Bytes → β} {agree : β → Bytes → Prop}
    (agrees : ∀ data, agree (make data) data) :
    TakesAll (get >>= fun data => pure (make data)) 0 agree := fun data _ => agrees data

/-- A field is read from the bytes in front, and the later ones from all behind it. -/
theorem Reads.bindAll {first second : Bytes} {value : α} {result : β}
    (reads : Reads field first value) (readsNext : ReadsAll (next value) second result) :
    ReadsAll (field >>= next) (first ++ second) result := by
  -- The first field leaves just the bytes that the later ones are read from.
  have fieldRun : field (first ++ second) = (value, second) := reads second
  show (next (field (first ++ second)).1 (field (first ++ second)).2).1 = result
  rw [fieldRun]
  exact readsNext

/-- A field takes the bytes in front, and the later ones all behind it. -/
theorem Takes.bindAll {width least : Nat} {agree : α → Bytes → Prop} {whole : β → Bytes → Prop}
    (takes : Takes field width agree)
    (takesNext : ∀ value bytes, agree value bytes →
      TakesAll (next value) least fun result more => whole result (bytes ++ more)) :
    TakesAll (field >>= next) (width + least) whole := by
  intro body enough
  obtain ⟨agrees, left⟩ := takes body (by omega)
  -- What the field leaves is the body without its bytes, so both make up the body.
  have enoughLeft : least ≤ (body.drop width).length := by
    rw [List.length_drop]
    omega
  have holds : whole _ (body.take width ++ body.drop width) :=
    takesNext _ _ agrees (body.drop width) enoughLeft
  rw [List.take_append_drop, ← left] at holds
  exact holds

end Sequence

end BodyField

open BodyField

/-- Records of a kind are a header of so many bytes and data behind it: whatever has the length of a
header is the body of one of them, of no other one, and its data is all that the header leaves. -/
structure HeaderThenData {α : Type} (decode : Bytes → Except BodyError α) (encode : α → Bytes)
    (WellFormed : α → Prop) (data : α → Bytes) (header : Nat) : Prop where
  /-- A body is written from what it decodes to, whatever lengths its header declares. -/
  encode_decode : ∀ body : Bytes, header ≤ body.length → ∃ value, decode body = .ok value ∧
    WellFormed value ∧ encode value = body ∧ (data value).length = body.length - header
  injective : ∀ (first second : Bytes) (value : α),
    decode first = .ok value → decode second = .ok value → first = second
  /-- A record is decoded from what it is written as. -/
  decode_encode : ∀ value, WellFormed value → decode (encode value) = .ok value

section

variable {α : Type} {type : RecordType} {fields : StateM Bytes α} {encode : α → Bytes}
  {WellFormed : α → Prop} {data : α → Bytes} {header : Nat}

/-- Fields that take a header and all behind it make a decoder of such records. -/
theorem HeaderThenData.of_fields (least : type.minBodyLength = header)
    (reads : ∀ value, WellFormed value → ReadsAll fields (encode value) value)
    (takes : TakesAll fields header fun value body => WellFormed value ∧ encode value = body)
    (wide : ∀ value, (encode value).length = header + (data value).length) :
    HeaderThenData (fun body => do type.checkLength body; return (fields.run body).1)
      encode WellFormed data header := by
  -- A body decodes exactly if it holds a header, and then to what the fields read.
  have decoded : ∀ body : Bytes, header ≤ body.length →
      (do type.checkLength body; return (fields.run body).1 : Except BodyError α) =
        .ok (fields.run body).1 := by
    intro body long
    have passes := RecordType.checkLength_eq_ok_iff.mpr (least.symm ▸ long)
    simp [passes, bind, Except.bind, pure, Except.pure]
  have written : ∀ (body : Bytes) (value : α),
      (do type.checkLength body; return (fields.run body).1 : Except BodyError α) = .ok value →
        encode value = body := by
    intro body value same
    rcases type.checkLength_cases body with ⟨long, -⟩ | ⟨-, needed, offset, refused⟩
    · rw [decoded body (least ▸ long)] at same
      obtain rfl := Except.ok.inj same
      exact (takes body (least ▸ long)).2
    · simp [refused, bind, Except.bind] at same
  refine ⟨?_, ?_, ?_⟩
  · intro body long
    obtain ⟨formed, same⟩ := takes body long
    refine ⟨_, decoded body long, formed, same, ?_⟩
    -- The header is as wide in the record as in the body.
    have lengths := wide (fields.run body).1
    rw [same] at lengths
    omega
  · -- Both bodies are what the one record is written as.
    intro first second value firstDecoded secondDecoded
    exact (written first value firstDecoded).symm.trans (written second value secondDecoded)
  · -- What a record is written as holds a header, so it decodes, and the fields read the record.
    intro value formed
    have long : header ≤ (encode value).length := by
      rw [wide]
      exact Nat.le_add_right ..
    rw [decoded _ long, reads value formed]

end

/-- A packet with words in its header. -/
structure Packet.WellFormed (packet : Packet) : Prop where
  sensorId : Fits 4 packet.sensorId
  eventId : Fits 4 packet.eventId
  eventSecond : Fits 4 packet.eventSecond
  second : Fits 4 packet.second
  microsecond : Fits 4 packet.microsecond
  linkType : Fits 4 packet.linkType
  length : Fits 4 packet.length

/-- A well-formed packet is read from the bytes that it is written as. -/
theorem Packet.WellFormed.reads_fields {packet : Packet} (formed : packet.WellFormed) :
    ReadsAll fields packet.encode packet := by
  -- The bytes of a field are followed by those of the fields behind it, and at last by the data.
  unfold encode
  simp only [List.append_assoc]
  refine (reads_number formed.sensorId).bindAll ?_
  refine (reads_number formed.eventId).bindAll ?_
  refine (reads_number formed.eventSecond).bindAll ?_
  refine (reads_number formed.second).bindAll ?_
  refine (reads_number formed.microsecond).bindAll ?_
  refine (reads_number formed.linkType).bindAll ?_
  refine (reads_number formed.length).bindAll ?_
  exact readsAll_get _ packet.data

/-- The fields of a packet take all of its body, which is what the packet is written as. -/
theorem Packet.takes_fields :
    TakesAll fields 28 fun packet body => packet.WellFormed ∧ packet.encode = body := by
  -- Field by field, what was taken so far is what the fields read so far are written as.
  show TakesAll fields (4 + (4 + (4 + (4 + (4 + (4 + (4 + 0))))))) _
  refine (takes_number 4).bindAll fun sensorId _ ⟨sensorFits, rfl⟩ => ?_
  refine (takes_number 4).bindAll fun eventId _ ⟨eventFits, rfl⟩ => ?_
  refine (takes_number 4).bindAll fun eventSecond _ ⟨eventSecondFits, rfl⟩ => ?_
  refine (takes_number 4).bindAll fun second _ ⟨secondFits, rfl⟩ => ?_
  refine (takes_number 4).bindAll fun microsecond _ ⟨microsecondFits, rfl⟩ => ?_
  refine (takes_number 4).bindAll fun linkType _ ⟨linkFits, rfl⟩ => ?_
  refine (takes_number 4).bindAll fun length _ ⟨lengthFits, rfl⟩ => ?_
  refine takesAll_get fun data => ⟨⟨sensorFits, eventFits, eventSecondFits, secondFits,
    microsecondFits, linkFits, lengthFits⟩, ?_⟩
  unfold encode
  simp only [List.append_assoc]

/-- Extra data with words in its header. -/
structure ExtraData.WellFormed (extra : ExtraData) : Prop where
  eventType : Fits 4 extra.eventType
  eventLength : Fits 4 extra.eventLength
  sensorId : Fits 4 extra.sensorId
  eventId : Fits 4 extra.eventId
  eventSecond : Fits 4 extra.eventSecond
  type : Fits 4 extra.type
  dataType : Fits 4 extra.dataType
  dataLength : Fits 4 extra.dataLength

/-- Well-formed extra data is read from the bytes that it is written as. -/
theorem ExtraData.WellFormed.reads_fields {extra : ExtraData} (formed : extra.WellFormed) :
    ReadsAll fields extra.encode extra := by
  -- Eight words stand in front of the data.
  unfold encode
  simp only [List.append_assoc]
  refine (reads_number formed.eventType).bindAll ?_
  refine (reads_number formed.eventLength).bindAll ?_
  refine (reads_number formed.sensorId).bindAll ?_
  refine (reads_number formed.eventId).bindAll ?_
  refine (reads_number formed.eventSecond).bindAll ?_
  refine (reads_number formed.type).bindAll ?_
  refine (reads_number formed.dataType).bindAll ?_
  refine (reads_number formed.dataLength).bindAll ?_
  exact readsAll_get _ extra.data

/-- The fields of extra data take all of its body, which is what the extra data is written as. -/
theorem ExtraData.takes_fields :
    TakesAll fields 32 fun extra body => extra.WellFormed ∧ extra.encode = body := by
  -- The header is its eight words one after the other, and nothing is asked of what follows.
  show TakesAll fields (4 + (4 + (4 + (4 + (4 + (4 + (4 + (4 + 0)))))))) _
  refine (takes_number 4).bindAll fun eventType _ ⟨eventTypeFits, rfl⟩ => ?_
  refine (takes_number 4).bindAll fun eventLength _ ⟨eventLengthFits, rfl⟩ => ?_
  refine (takes_number 4).bindAll fun sensorId _ ⟨sensorFits, rfl⟩ => ?_
  refine (takes_number 4).bindAll fun eventId _ ⟨eventFits, rfl⟩ => ?_
  refine (takes_number 4).bindAll fun eventSecond _ ⟨eventSecondFits, rfl⟩ => ?_
  refine (takes_number 4).bindAll fun type _ ⟨typeFits, rfl⟩ => ?_
  refine (takes_number 4).bindAll fun dataType _ ⟨dataTypeFits, rfl⟩ => ?_
  refine (takes_number 4).bindAll fun dataLength _ ⟨dataLengthFits, rfl⟩ => ?_
  refine takesAll_get fun data => ⟨⟨eventTypeFits, eventLengthFits, sensorFits, eventFits,
    eventSecondFits, typeFits, dataTypeFits, dataLengthFits⟩, ?_⟩
  unfold encode
  simp only [List.append_assoc]

/-- A packet is its header of 28 bytes and the data behind it, and extra data is its header of 32
bytes and the data behind it; from the body and from the record the other one is known. -/
theorem Record.data_is_remainder_of_body :
    HeaderThenData Packet.decode Packet.encode Packet.WellFormed Packet.data 28 ∧
    HeaderThenData ExtraData.decode ExtraData.encode ExtraData.WellFormed ExtraData.data 32 := by
  -- Both headers are as wide as their words, whatever the values in them are.
  constructor
  · have least : RecordType.packet.minBodyLength = 28 := rfl
    refine .of_fields least (fun _ formed => formed.reads_fields) Packet.takes_fields ?_
    intro packet
    simp only [Packet.encode, BodyField.bytes, List.length_append, BigEndian.length_encode]
  · have least : RecordType.extraData.minBodyLength = 32 := rfl
    refine .of_fields least (fun _ formed => formed.reads_fields) ExtraData.takes_fields ?_
    intro extra
    simp only [ExtraData.encode, BodyField.bytes, List.length_append, BigEndian.length_encode]

/-- The length that a packet declares tells nothing about its data. -/
example : (Packet.decode (List.replicate 28 255 ++ [1, 2])).map (fun packet =>
    (packet.length, packet.data)) = .ok (4294967295, [1, 2]) := by decide

end Unified2
