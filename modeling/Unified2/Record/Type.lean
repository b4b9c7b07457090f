/-! The record types of a log, and the fixed blocks that their bodies start with. -/

namespace Unified2

/-- What a decoded record is. -/
inductive RecordKind
  | event
  | packet
  | extraData
  | unknown
  deriving DecidableEq, Repr

/-- The name of a kind in every listing. -/
def RecordKind.name : RecordKind → String
  | event => "event"
  | packet => "packet"
  | extraData => "extra_data"
  | unknown => "unknown"

/-- The widths in bytes of the fields that must all be present or none of them is read. -/
abbrev Block := List Nat

namespace Block

/-- The bytes a block takes. -/
def size : Block → Nat
  | [] => 0
  | width :: rest => width + size rest

/-- The bytes that blocks take one after the other. -/
def totalSize : List Block → Nat
  | [] => 0
  | block :: rest => block.size + totalSize rest

/-- The nine words that every event starts with. -/
def preamble : Block := [4, 4, 4, 4, 4, 4, 4, 4, 4]

/-- The source and destination address of an event. -/
def addresses (ip6 : Bool) : Block := if ip6 then [16, 16] else [4, 4]

/-- The ports, the protocol and the three outcome bytes of an event. -/
def transport : Block := [2, 2, 1, 1, 1, 1]

/-- The path label and the network number that only a second-version event ends with. -/
def labels : Block := [4, 2]

/-- The seven words in front of the bytes of a packet. -/
def packetHeader : Block := [4, 4, 4, 4, 4, 4, 4]

/-- The eight words in front of the bytes of extra data. -/
def extraDataHeader : Block := [4, 4, 4, 4, 4, 4, 4, 4]

end Block

/-- The record types that a tag can name. -/
inductive RecordType
  | packet
  | event
  | eventIp6
  | eventV2
  | eventIp6V2
  | extraData
  deriving DecidableEq, Repr

namespace RecordType

/-- Every record type, by growing tag. -/
def all : List RecordType := [packet, event, eventIp6, eventV2, eventIp6V2, extraData]

/-- The tag that names a record type in a frame header. -/
def tag : RecordType → Nat
  | packet => 2
  | event => 7
  | eventIp6 => 72
  | eventV2 => 104
  | eventIp6V2 => 105
  | extraData => 110

/-- The record type that a tag names, if any. -/
def ofTag? (tag : Int) : Option RecordType :=
  -- Tags are compared as whole numbers, for callers may ask for any.
  all.find? fun type => (type.tag : Int) == tag

/-- The name of a record type in capitals. -/
def name : RecordType → String
  | packet => "PACKET"
  | event => "EVENT"
  | eventIp6 => "EVENT_IP6"
  | eventV2 => "EVENT_V2"
  | eventIp6V2 => "EVENT_IP6_V2"
  | extraData => "EXTRA_DATA"

/-- The kind of record that a body of this type decodes to. -/
def kind : RecordType → RecordKind
  | packet => .packet
  | extraData => .extraData
  -- Four of the six types are events.
  | _ => .event

/-- Whether a body of this type is an event. -/
def isEvent (type : RecordType) : Bool := type.kind == .event

/-- Whether an event of this type has addresses of sixteen bytes. -/
def isIp6 : RecordType → Bool
  | eventIp6 | eventIp6V2 => true
  | _ => false

/-- Whether an event of this type ends with labels. -/
def isV2 : RecordType → Bool
  | eventV2 | eventIp6V2 => true
  | _ => false

/-- The blocks of an event; a type that is no event counts as the plain one. -/
def eventBlocks (type : RecordType) : List Block :=
  -- Each block is unpacked by itself, so an error names the block and not the field.
  [Block.preamble, Block.addresses type.isIp6, Block.transport] ++
    if type.isV2 then [Block.labels] else []

/-- The blocks that a body of this type starts with, in order. -/
def blocks (type : RecordType) : List Block :=
  match type.kind with
  | .packet => [Block.packetHeader]
  | .extraData => [Block.extraDataHeader]
  | _ => type.eventBlocks

/-- The length that is listed for the bodies of events; it counts the blocks one by one. -/
def eventLength (type : RecordType) : Nat :=
  -- The listing adds sizes up, where the decoder tries one block after the other.
  let labels := if type.isV2 then Block.labels.size else 0
  Block.preamble.size + (Block.addresses type.isIp6).size + Block.transport.size + labels

/-- The length that is listed for the bodies of a type: for all but events, that of the header. -/
def minBodyLength (type : RecordType) : Nat :=
  -- The listing asks for the kind first, so only an event has its blocks counted.
  if type.isEvent then type.eventLength
  else match type.kind with
    | .packet => Block.packetHeader.size
    | _ => Block.extraDataHeader.size

/-- The line about one record type in the listing of what can be decoded. -/
structure Description where
  tag : Nat
  name : String
  kind : RecordKind
  /-- Whether addresses have sixteen bytes, for events. -/
  ip6 : Option Bool
  /-- Whether labels end the body, for events. -/
  v2 : Option Bool
  minBodyLength : Nat
  deriving DecidableEq, Repr

/-- Describes a record type. -/
def describe (type : RecordType) : Description where
  tag := type.tag
  name := type.name.toLower
  kind := type.kind
  -- Types that are no event have no such traits, rather than false ones.
  ip6 := if type.isEvent then some type.isIp6 else none
  v2 := if type.isEvent then some type.isV2 else none
  minBodyLength := type.minBodyLength

/-- The listing of everything that can be decoded. -/
def descriptions : List Description := all.map describe

end RecordType

end Unified2
