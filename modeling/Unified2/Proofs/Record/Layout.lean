import Unified2.Proofs.BigEndian
import Unified2.Record.Decode
import Unified2.Record.Encode

/-! The fields of an event are read in the layout that they are written in, whatever follows. -/

namespace Unified2

namespace BodyField

/-- A number that so many bytes can hold. -/
def Fits (width : Nat) (value : Int) : Prop := 0 ≤ value ∧ value.toNat < 256 ^ width

/-- Fields are read from bytes as a value, whatever follows these. -/
def Reads {α : Type} (field : StateM Bytes α) (bytes : Bytes) (value : α) : Prop :=
  ∀ rest, field.run (bytes ++ rest) = (value, rest)

/-- Fields take so many bytes, if there are as many, and of these and the value that they read one
thing is true. -/
def Takes {α : Type} (field : StateM Bytes α) (width : Nat) (agree : α → Bytes → Prop) : Prop :=
  ∀ body : Bytes, width ≤ body.length →
    agree (field.run body).1 (body.take width) ∧ (field.run body).2 = body.drop width

section Sequence

variable {α β : Type} {field : StateM Bytes α} {next : α → StateM Bytes β}

/-- Reading nothing leaves all bytes. -/
theorem reads_pure (value : α) : Reads (pure value) [] value := fun _ => rfl

/-- Fields read one after the other are read from bytes one after the other. -/
theorem Reads.bind {first second : Bytes} {value : α} {result : β}
    (reads : Reads field first value) (readsNext : Reads (next value) second result) :
    Reads (field >>= next) (first ++ second) result := by
  -- The bytes of the second field are what follows those of the first.
  intro rest
  have fieldRun : field (first ++ (second ++ rest)) = (value, second ++ rest) := reads _
  have nextRun : next value (second ++ rest) = (result, rest) := readsNext _
  rw [List.append_assoc]
  show next (field (first ++ (second ++ rest))).1 (field (first ++ (second ++ rest))).2 = _
  rw [fieldRun, nextRun]

/-- Fields are read in the same way if what they read is made into something else. -/
theorem Reads.map {bytes : Bytes} {value : α} (reads : Reads field bytes value) (make : α → β) :
    Reads (make <$> field) bytes (make value) := by
  intro rest
  have fieldRun : field (bytes ++ rest) = (value, rest) := reads rest
  show (make (field (bytes ++ rest)).1, (field (bytes ++ rest)).2) = (make value, rest)
  rw [fieldRun]

/-- Reading nothing takes nothing. -/
theorem takes_pure (value : α) {agree : α → Bytes → Prop} (holds : agree value []) :
    Takes (pure value) 0 agree := fun _ _ => ⟨holds, rfl⟩

/-- Fields read one after the other take the bytes of the first and then those of the second. -/
theorem Takes.bind {first second : Nat} {agree : α → Bytes → Prop} {whole : β → Bytes → Prop}
    (takes : Takes field first agree)
    (takesNext : ∀ value bytes, agree value bytes →
      Takes (next value) second fun result more => whole result (bytes ++ more)) :
    Takes (field >>= next) (first + second) whole := by
  intro body enough
  obtain ⟨agrees, left⟩ := takes body (by omega)
  -- The second field finds what the first one leaves.
  obtain ⟨holds, leftNext⟩ := takesNext _ _ agrees (body.drop first)
    (by rw [List.length_drop]; omega)
  rw [← List.take_add] at holds
  rw [List.drop_drop] at leftNext
  rw [← left] at holds leftNext
  exact ⟨holds, leftNext⟩

/-- Fields take the same bytes if what they read is made into something else. -/
theorem Takes.map {width : Nat} {agree : α → Bytes → Prop} {whole : β → Bytes → Prop}
    (takes : Takes field width agree) {make : α → β}
    (agrees : ∀ value bytes, agree value bytes → whole (make value) bytes) :
    Takes (make <$> field) width whole := by
  intro body enough
  obtain ⟨holds, left⟩ := takes body enough
  exact ⟨agrees _ _ holds, left⟩

end Sequence

/-- A number that fits its width is read from its big-endian bytes. -/
theorem reads_number {width : Nat} {value : Int} (fits : Fits width value) :
    Reads (number width) (bytes width value) value := by
  -- A number below the bound comes through the remainder as it is.
  intro rest
  obtain ⟨nonnegative, below⟩ := fits
  have back : (BigEndian.decode (bytes width value) : Int) = value := by
    rw [bytes, BigEndian.decode_encode, Nat.mod_eq_of_lt below, Int.toNat_of_nonneg nonnegative]
  have wide : (bytes width value).length = width := BigEndian.length_encode ..
  simp only [number, StateT.run, List.take_left' wide, List.drop_left' wide, back]

/-- A number takes the big-endian bytes of what it reads, which fits its width. -/
theorem takes_number (width : Nat) :
    Takes (number width) width fun value taken => Fits width value ∧ bytes width value = taken := by
  -- Bytes of this width decode to a number below the bound, which encodes to the same bytes.
  intro body enough
  have wide : (body.take width).length = width := by rw [List.length_take]; omega
  have below := BigEndian.decode_lt (body.take width)
  have back := BigEndian.encode_decode (body.take width)
  rw [wide] at below back
  exact ⟨⟨⟨Int.natCast_nonneg _, below⟩, back⟩, rfl⟩

/-- Octets are read as they are. -/
theorem reads_octets {width : Nat} {octets : Bytes} (wide : octets.length = width) :
    Reads (BodyField.octets width) octets octets := by
  intro rest
  simp only [BodyField.octets, StateT.run, List.take_left' wide, List.drop_left' wide]

/-- Octets take as many bytes as there are to be. -/
theorem takes_octets (width : Nat) :
    Takes (octets width) width fun value taken => value.length = width ∧ value = taken := by
  intro body enough
  refine ⟨⟨?_, rfl⟩, rfl⟩
  show (body.take width).length = width
  rw [List.length_take]
  omega

/-- The bytes of a field that may be missing. -/
def optionalBytes (width : Nat) : Option Int → Bytes
  | none => []
  | some value => bytes width value

/-- A field that is there exactly if it is to be, and then fits its width. -/
def OptionalFits (present : Bool) (width : Nat) (value : Option Int) : Prop :=
  value.isSome = present ∧ ∀ number ∈ value, Fits width number

/-- A number is read only if it is to be there. -/
theorem reads_optional {present : Bool} {width : Nat} {value : Option Int}
    (fits : OptionalFits present width value) :
    Reads (optional present (number width)) (optionalBytes width value) value := by
  obtain ⟨rfl, within⟩ := fits
  cases value with
  | none => exact reads_pure none
  | some value => exact (reads_number (within value rfl)).map some

/-- A number takes no bytes if it is not to be there. -/
theorem takes_optional (present : Bool) (width : Nat) :
    Takes (optional present (number width)) (if present then width else 0)
      fun value taken => OptionalFits present width value ∧ optionalBytes width value = taken := by
  cases present with
  | false => exact takes_pure none ⟨⟨rfl, by simp⟩, rfl⟩
  | true => exact (takes_number width).map fun value taken agrees =>
      ⟨⟨rfl, by simpa using agrees.1⟩, agrees.2⟩

/-- Labels that are both there or both missing are written one behind the other. -/
theorem optionalBytes_append {present : Bool} {first second : Option Int}
    (firstFits : OptionalFits present 4 first) (secondFits : OptionalFits present 2 second) :
    optionalBytes 4 first ++ optionalBytes 2 second =
      if present then bytes 4 (first.getD 0) ++ bytes 2 (second.getD 0) else [] := by
  -- There is one label exactly if there is the other one.
  obtain ⟨rfl, -⟩ := firstFits
  have same := secondFits.1
  cases first <;> cases second <;> simp_all [optionalBytes]

end BodyField

open BodyField

/-- The bytes that an address of an event of this type takes. -/
def RecordType.addressWidth (type : RecordType) : Nat := if type.isIp6 then 16 else 4

/-- The widths of the fields one after the other make up the length of an event. -/
theorem RecordType.eventLength_eq (type : RecordType) :
    type.eventLength = 4 + (4 + (4 + (4 + (4 + (4 + (4 + (4 + (4 +
      (type.addressWidth + (type.addressWidth + (2 + (2 + (1 + (1 + (1 + (1 +
      ((if type.isV2 then 4 else 0) + ((if type.isV2 then 2 else 0) + 0)))))))))))))))))) := by
  cases type <;> rfl

namespace Event

/-- An event with fields as wide as its type has them, and labels only if its type has these. -/
structure WellFormed (event : Event) : Prop where
  isEvent : event.type.isEvent = true
  sensorId : Fits 4 event.sensorId
  eventId : Fits 4 event.eventId
  second : Fits 4 event.second
  microsecond : Fits 4 event.microsecond
  signatureId : Fits 4 event.signatureId
  generatorId : Fits 4 event.generatorId
  signatureRevision : Fits 4 event.signatureRevision
  classificationId : Fits 4 event.classificationId
  priority : Fits 4 event.priority
  source : event.source.length = event.type.addressWidth
  destination : event.destination.length = event.type.addressWidth
  sourcePort : Fits 2 event.sourcePort
  destinationPort : Fits 2 event.destinationPort
  protocol : Fits 1 event.protocol
  impactFlag : Fits 1 event.impactFlag
  impact : Fits 1 event.impact
  blocked : Fits 1 event.blocked
  mplsLabel : OptionalFits event.type.isV2 4 event.mplsLabel
  vlanId : OptionalFits event.type.isV2 2 event.vlanId

/-- A well-formed event is read from the bytes that it is written as. -/
theorem WellFormed.reads_fields {event : Event} (formed : event.WellFormed) :
    Reads (fields event.type) event.encode event := by
  -- The bytes of a field are followed by those of all the fields behind it.
  unfold encode
  rw [← optionalBytes_append formed.mplsLabel formed.vlanId]
  simp only [List.append_assoc]
  refine (reads_number formed.sensorId).bind ?_
  refine (reads_number formed.eventId).bind ?_
  refine (reads_number formed.second).bind ?_
  refine (reads_number formed.microsecond).bind ?_
  refine (reads_number formed.signatureId).bind ?_
  refine (reads_number formed.generatorId).bind ?_
  refine (reads_number formed.signatureRevision).bind ?_
  refine (reads_number formed.classificationId).bind ?_
  refine (reads_number formed.priority).bind ?_
  refine (reads_octets formed.source).bind ?_
  refine (reads_octets formed.destination).bind ?_
  refine (reads_number formed.sourcePort).bind ?_
  refine (reads_number formed.destinationPort).bind ?_
  refine (reads_number formed.protocol).bind ?_
  refine (reads_number formed.impactFlag).bind ?_
  refine (reads_number formed.impact).bind ?_
  refine (reads_number formed.blocked).bind ?_
  refine (reads_optional formed.mplsLabel).bind ?_
  rw [← List.append_nil (optionalBytes 2 event.vlanId)]
  exact (reads_optional formed.vlanId).bind (reads_pure event)

/-- A well-formed event is written as the bytes that its type asks for. -/
theorem WellFormed.length_encode {event : Event} (formed : event.WellFormed) :
    event.encode.length = event.type.eventLength := by
  -- Only the labels can be missing, and only the addresses are not as wide for every type.
  rw [RecordType.eventLength_eq, encode]
  cases event.type.isV2 <;>
    simp [BodyField.bytes, formed.source, formed.destination]

/-- The fields of an event take the bytes that it is written as, and it is well-formed. -/
theorem takes_fields {type : RecordType} (isEvent : type.isEvent = true) :
    Takes (fields type) type.eventLength fun event taken =>
      event.type = type ∧ event.WellFormed ∧ event.encode = taken := by
  -- Field by field, what was taken so far is what the fields read so far are written as.
  rw [RecordType.eventLength_eq]
  refine (takes_number 4).bind fun sensorId _ ⟨sensorFits, rfl⟩ => ?_
  refine (takes_number 4).bind fun eventId _ ⟨eventFits, rfl⟩ => ?_
  refine (takes_number 4).bind fun second _ ⟨secondFits, rfl⟩ => ?_
  refine (takes_number 4).bind fun microsecond _ ⟨microsecondFits, rfl⟩ => ?_
  refine (takes_number 4).bind fun signatureId _ ⟨signatureFits, rfl⟩ => ?_
  refine (takes_number 4).bind fun generatorId _ ⟨generatorFits, rfl⟩ => ?_
  refine (takes_number 4).bind fun signatureRevision _ ⟨revisionFits, rfl⟩ => ?_
  refine (takes_number 4).bind fun classificationId _ ⟨classificationFits, rfl⟩ => ?_
  refine (takes_number 4).bind fun priority _ ⟨priorityFits, rfl⟩ => ?_
  refine (takes_octets _).bind fun source _ ⟨sourceWidth, rfl⟩ => ?_
  refine (takes_octets _).bind fun destination _ ⟨destinationWidth, rfl⟩ => ?_
  refine (takes_number 2).bind fun sourcePort _ ⟨sourcePortFits, rfl⟩ => ?_
  refine (takes_number 2).bind fun destinationPort _ ⟨destinationPortFits, rfl⟩ => ?_
  refine (takes_number 1).bind fun protocol _ ⟨protocolFits, rfl⟩ => ?_
  refine (takes_number 1).bind fun impactFlag _ ⟨impactFlagFits, rfl⟩ => ?_
  refine (takes_number 1).bind fun impact _ ⟨impactFits, rfl⟩ => ?_
  refine (takes_number 1).bind fun blocked _ ⟨blockedFits, rfl⟩ => ?_
  refine (takes_optional _ 4).bind fun mplsLabel _ ⟨mplsFits, rfl⟩ => ?_
  refine (takes_optional _ 2).bind fun vlanId _ ⟨vlanFits, rfl⟩ => ?_
  refine takes_pure _ ⟨rfl, ⟨isEvent, sensorFits, eventFits, secondFits, microsecondFits,
    signatureFits, generatorFits, revisionFits, classificationFits, priorityFits, sourceWidth,
    destinationWidth, sourcePortFits, destinationPortFits, protocolFits, impactFlagFits,
    impactFits, blockedFits, mplsFits, vlanFits⟩, ?_⟩
  -- The labels are there or missing together.
  unfold encode
  rw [← optionalBytes_append mplsFits vlanFits]
  simp only [List.append_assoc, List.append_nil]

end Event

/-- A record type is found by its tag, and by no other number. -/
theorem RecordType.ofTag?_eq_some_iff {tag : Int} {type : RecordType} :
    ofTag? tag = some type ↔ (type.tag : Int) = tag := by
  constructor
  · intro found
    simpa using List.find?_some found
  · -- No two types have the same tag.
    rintro rfl
    cases type <;> rfl

/-- Blocks that all fit end within the bytes available. -/
theorem Block.firstMisfit_eq_none_iff {available offset : Nat} (within : offset ≤ available)
    (blocks : List Block) :
    firstMisfit available offset blocks = none ↔ offset + totalSize blocks ≤ available := by
  induction blocks generalizing offset with
  | nil => simpa [firstMisfit, totalSize] using within
  | cons block rest ih =>
    by_cases misfit : available < offset + block.size
    · -- A block that does not fit ends behind the bytes, and so do all of them.
      simp only [firstMisfit, if_pos misfit, totalSize, reduceCtorEq, false_iff]
      omega
    · simp only [firstMisfit, if_neg misfit, totalSize]
      rw [ih (Nat.le_of_not_lt misfit), Nat.add_assoc]

/-- The length that is listed for a type is what the blocks take that its decoder asks for. -/
theorem RecordType.minBodyLength_eq_totalSize (type : RecordType) :
    type.minBodyLength = Block.totalSize type.blocks := by
  -- The listing and the decoder choose the blocks on their own, so each type is compared.
  cases type <;> rfl

/-- A body passes the check exactly if it has as many bytes as the blocks of its type. -/
theorem RecordType.checkLength_eq_ok_iff {type : RecordType} {body : Bytes} :
    type.checkLength body = .ok () ↔ type.minBodyLength ≤ body.length := by
  have fits := Block.firstMisfit_eq_none_iff (Nat.zero_le body.length) type.blocks
  rw [Nat.zero_add] at fits
  rw [minBodyLength_eq_totalSize, checkLength, ← fits]
  cases Block.firstMisfit body.length 0 type.blocks with
  | none => simp
  | some misfit => simp

/-- A body that is long enough passes, and one that is not fails at some block. -/
theorem RecordType.checkLength_cases (type : RecordType) (body : Bytes) :
    (type.minBodyLength ≤ body.length ∧ type.checkLength body = .ok ()) ∨
    (body.length < type.minBodyLength ∧ ∃ needed offset,
      type.checkLength body = .error (.bodyTooShort type needed offset body.length)) := by
  by_cases long : type.minBodyLength ≤ body.length
  · exact .inl ⟨long, checkLength_eq_ok_iff.mpr long⟩
  · have refused := mt checkLength_eq_ok_iff.mp long
    refine .inr ⟨Nat.lt_of_not_le long, ?_⟩
    unfold checkLength at refused ⊢
    cases misfit : Block.firstMisfit body.length 0 type.blocks with
    | none => simp [misfit] at refused
    | some place => exact ⟨place.2, place.1, rfl⟩

/-- The shortest body of an event holds its fields and nothing else. -/
theorem RecordType.minBodyLength_of_isEvent {type : RecordType} (isEvent : type.isEvent = true) :
    type.minBodyLength = type.eventLength := by
  revert isEvent
  cases type <;> decide

/-- By the tag of an event type a body is decoded as an event of this type. -/
theorem Event.decode_tag {type : RecordType} (isEvent : type.isEvent = true) (body : Bytes) :
    Event.decode type.tag body = type.decodeEvent body := by
  simp only [Event.decode, RecordType.ofTag?_eq_some_iff.mpr rfl, isEvent, if_true]

/-- A body that is long enough for an event is decoded to what its fields read. -/
theorem Event.decode_eq_ok {type : RecordType} (isEvent : type.isEvent = true) {body : Bytes}
    (long : type.eventLength ≤ body.length) :
    Event.decode type.tag body = .ok ((Event.fields type).run body).1 := by
  have passes := RecordType.checkLength_eq_ok_iff.mpr
    (show type.minBodyLength ≤ body.length by rwa [RecordType.minBodyLength_of_isEvent isEvent])
  simp [Event.decode_tag isEvent, RecordType.decodeEvent, passes, bind, Except.bind, pure,
    Except.pure]

/-- Types of one address family read the same fields, the labels aside. -/
theorem Event.fields_of_isIp6_eq {first second : RecordType} (family : first.isIp6 = second.isIp6)
    (unlabelled : first.isV2 = false) (body : Bytes) :
    ((Event.fields first).run body).1 =
      { ((Event.fields second).run body).1 with
        type := first, mplsLabel := none, vlanId := none } := by
  -- Until the labels both take the same bytes, and what is behind these does not matter.
  unfold Event.fields
  rw [family, unlabelled]
  rfl

/-- In the layout of an event type every well-formed event is decoded from what it is written as,
whatever follows; every body that is long enough is decoded to a well-formed event that is written
as the bytes it begins with, on which alone it depends; and what has labels in the layout of
another type of the same address family is the same event without them in this one. -/
theorem Event.decode_inverts_encode {type : RecordType} (isEvent : type.isEvent = true) :
    (∀ event : Event, event.type = type → event.WellFormed → ∀ trailing,
      Event.decode type.tag (event.encode ++ trailing) = .ok event) ∧
    (∀ body : Bytes, type.eventLength ≤ body.length → ∃ event,
      Event.decode type.tag body = .ok event ∧ event.type = type ∧ event.WellFormed ∧
      event.encode = body.take type.eventLength ∧
      ∀ other : Bytes, other.take type.eventLength = body.take type.eventLength →
        Event.decode type.tag other = .ok event) ∧
    ∀ second : RecordType, second.isEvent = true → second.isIp6 = type.isIp6 →
      type.isV2 = false → second.isV2 = true → ∀ body : Bytes, second.eventLength ≤ body.length →
      ∃ event, Event.decode second.tag body = .ok event ∧
        Event.decode type.tag body =
          .ok { event with type, mplsLabel := none, vlanId := none } := by
  have fromWritten : ∀ event : Event, event.type = type → event.WellFormed → ∀ trailing,
      Event.decode type.tag (event.encode ++ trailing) = .ok event := by
    rintro event rfl formed trailing
    have long : event.type.eventLength ≤ (event.encode ++ trailing).length := by
      rw [List.length_append, formed.length_encode]
      exact Nat.le_add_right ..
    rw [Event.decode_eq_ok isEvent long, formed.reads_fields trailing]
  refine ⟨fromWritten, ?_, ?_⟩
  · intro body long
    obtain ⟨⟨typed, formed, written⟩, -⟩ := takes_fields isEvent body long
    refine ⟨_, Event.decode_eq_ok isEvent long, typed, formed, written, ?_⟩
    -- The other body begins with the same event, and something else trails it.
    intro other same
    rw [← List.take_append_drop type.eventLength other, same, ← written]
    exact fromWritten _ typed formed _
  · intro second isEventToo family unlabelled labelled body long
    refine ⟨_, Event.decode_eq_ok isEventToo long, ?_⟩
    -- The labels only make the event longer.
    have shorter : type.eventLength ≤ second.eventLength := by
      rw [RecordType.eventLength_eq, RecordType.eventLength_eq, RecordType.addressWidth,
        RecordType.addressWidth, family, unlabelled, labelled]
      simp
    rw [Event.decode_eq_ok isEvent (Nat.le_trans shorter long),
      Event.fields_of_isIp6_eq family.symm unlabelled]

/-- Sixty equal bytes are an event with labels by one tag, and the same without them by another. -/
theorem Event.decode_inverts_encode_of_equal_bytes :
    let body : Bytes := List.replicate 60 7
    RecordType.event.isEvent = true ∧ ∃ event, Event.decode 104 body = .ok event ∧
      event.vlanId = some 1799 ∧
      Event.decode 7 body = .ok { event with type := .event, mplsLabel := none, vlanId := none } ∧
      ∃ plain, Event.decode 7 (body.take 52) = .ok plain ∧ plain.encode = body.take 52 := by
  intro body
  obtain ⟨-, prefixOnly, labels⟩ :=
    Event.decode_inverts_encode (show RecordType.event.isEvent from rfl)
  obtain ⟨event, decoded, without⟩ := labels .eventV2 rfl rfl rfl rfl body (by decide)
  obtain ⟨plain, decodedToo, -, -, written, -⟩ := prefixOnly (body.take 52) (by decide)
  have labelled : (Event.decode 104 body).map Event.vlanId = .ok (some 1799) := by decide
  rw [show (104 : Int) = (RecordType.eventV2.tag : Int) from rfl, decoded] at labelled
  exact ⟨rfl, event, decoded, Except.ok.inj labelled, without, plain, decodedToo, written⟩

end Unified2
