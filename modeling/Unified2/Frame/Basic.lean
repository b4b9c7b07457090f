import Unified2.Record.Decode

/-! The framing of a log: a tag, a length and as many bytes, one frame after the other. -/

namespace Unified2

/-- One frame of a log. -/
structure Frame where
  tag : UInt32
  body : Bytes
  /-- The length field has four bytes. -/
  length_lt : body.length < 4294967296
  deriving DecidableEq, Repr

/-- The fields in front of every body. -/
def Block.frameHeader : Block := [4, 4]

namespace Frame

/-- The bytes of a frame header. -/
def headerLength : Nat := Block.frameHeader.size

/-- The bytes that a frame takes. -/
def size (frame : Frame) : Nat := headerLength + frame.body.length

/-- The bytes of a frame. -/
def encode (frame : Frame) : Bytes :=
  -- The length is that of the body alone, without the header.
  BigEndian.encode 4 frame.tag.toNat ++ BigEndian.encode 4 frame.body.length ++ frame.body

/-- What the body of a frame decodes to. -/
def decode (frame : Frame) : Except BodyError Record := Record.decode frame.tag.toNat frame.body

/-- The tag that a header carries. -/
def headerTag (header : Bytes) : UInt32 := UInt32.ofNat (BigEndian.decode (header.take 4))

/-- The body length that a header declares. -/
def headerBodyLength (header : Bytes) : UInt32 := UInt32.ofNat (BigEndian.decode (header.drop 4))

end Frame

/-- The bytes are these frames, one after the other, and a rest that no complete frame starts. -/
structure Frame.Splits (bytes : Bytes) (frames : List Frame) (rest : Bytes) : Prop where
  -- Nothing is lost and nothing stands between two frames.
  joined : bytes = frames.flatMap Frame.encode ++ rest
  -- The rest is the largest one without a frame at its start.
  stuck : ¬ ∃ frame tail, rest = Frame.encode frame ++ tail

end Unified2
