import Unified2.Frame.Basic
import Unified2.Proofs.BigEndian

/-! Every byte string is frames and a rest in exactly one way, which more bytes only extend. -/

namespace Unified2

namespace Bytes

/-- What comes behind a beginning makes it a longer one. -/
theorem prefix_append_of_drop {first second whole : Bytes} (begins : first <+: whole)
    (next : second <+: whole.drop first.length) : first ++ second <+: whole := by
  obtain ⟨rest, rfl⟩ := begins
  rw [List.drop_left' rfl] at next
  obtain ⟨left, rfl⟩ := next
  exact ⟨left, by rw [List.append_assoc]⟩

/-- Behind the same offset a beginning is a beginning still. -/
theorem prefix_drop {first whole : Bytes} (begins : first <+: whole) (offset : Nat) :
    first.drop offset <+: whole.drop offset := by
  obtain ⟨rest, rfl⟩ := begins
  rw [List.drop_append]
  exact List.prefix_append ..

end Bytes

namespace Frame

/-- The bytes in front of the body. -/
def header (frame : Frame) : Bytes :=
  BigEndian.encode 4 frame.tag.toNat ++ BigEndian.encode 4 frame.body.length

/-- The bytes that frames take one after the other. -/
def totalSize (frames : List Frame) : Nat := (frames.map size).sum

@[simp] theorem totalSize_nil : totalSize [] = 0 := rfl

@[simp] theorem totalSize_cons (frame : Frame) (frames : List Frame) :
    totalSize (frame :: frames) = frame.size + totalSize frames := rfl

@[simp] theorem totalSize_append (left right : List Frame) :
    totalSize (left ++ right) = totalSize left + totalSize right := by
  -- Sizes are added up in the order of the frames.
  simp [totalSize]

/-- One more frame adds its size. -/
theorem totalSize_take_succ {frames : List Frame} {index : Nat} {frame : Frame}
    (stands : frames[index]? = some frame) :
    totalSize (frames.take (index + 1)) = totalSize (frames.take index) + frame.size := by
  rw [List.take_add_one, stands, totalSize_append]
  rfl

/-- Frames and those behind them take as many bytes as all of them. -/
theorem totalSize_take_add (frames : List Frame) (first second : Nat) :
    totalSize (frames.take (first + second)) =
      totalSize (frames.take first) + totalSize ((frames.drop first).take second) := by
  rw [List.take_add, totalSize_append]

/-- A frame is its header and its body. -/
theorem encode_eq (frame : Frame) : frame.encode = frame.header ++ frame.body := rfl

@[simp] theorem length_header (frame : Frame) : frame.header.length = headerLength := by
  -- Both fields are four bytes wide.
  simp only [header, List.length_append, BigEndian.length_encode]
  rfl

/-- A frame takes as many bytes as its size says. -/
@[simp] theorem length_encode (frame : Frame) : frame.encode.length = frame.size := by
  rw [encode_eq, List.length_append, length_header, size]

/-- Frames take as many bytes as their sizes say. -/
@[simp] theorem length_flatMap_encode (frames : List Frame) :
    (frames.flatMap encode).length = totalSize frames := by
  -- The encodings stand one after the other.
  induction frames with
  | nil => rfl
  | cons frame frames ih => simp [ih]

/-- No frame is smaller than its header. -/
theorem headerLength_le_size (frame : Frame) : headerLength ≤ frame.size := by
  -- The body adds to the header, or is empty.
  unfold size
  omega

/-- Every frame takes one header at least. -/
theorem length_mul_headerLength_le (frames : List Frame) :
    frames.length * headerLength ≤ totalSize frames := by
  -- Every frame adds a header to both sides.
  induction frames with
  | nil => simp
  | cons frame frames ih =>
    have large := headerLength_le_size frame
    rw [List.length_cons, totalSize_cons, Nat.add_mul]
    omega

/-- A header carries the tag of its frame. -/
@[simp] theorem headerTag_header (frame : Frame) : headerTag frame.header = frame.tag := by
  -- The tag stands in the first four bytes, which hold every number of its width.
  have field : frame.header.take 4 = BigEndian.encode 4 frame.tag.toNat := by
    rw [header, List.take_left' (BigEndian.length_encode ..)]
  have fits : frame.tag.toNat % 256 ^ 4 = frame.tag.toNat := Nat.mod_eq_of_lt frame.tag.toNat_lt
  rw [headerTag, field, BigEndian.decode_encode, fits, UInt32.ofNat_toNat]

/-- A header declares the length of the body of its frame. -/
@[simp] theorem headerBodyLength_header (frame : Frame) :
    (headerBodyLength frame.header).toNat = frame.body.length := by
  -- The length stands in the last four bytes, and no body is too long for them.
  have field : frame.header.drop 4 = BigEndian.encode 4 frame.body.length := by
    rw [header, List.drop_left' (BigEndian.length_encode ..)]
  have fits : frame.body.length % 256 ^ 4 = frame.body.length :=
    Nat.mod_eq_of_lt frame.length_lt
  rw [headerBodyLength, field, BigEndian.decode_encode, fits]
  exact UInt32.toNat_ofNat_of_lt' frame.length_lt

/-- Bytes of the width of a header are the header of every frame with their tag and length. -/
theorem header_eq {bytes : Bytes} {frame : Frame} (width : bytes.length = headerLength)
    (tag : frame.tag = headerTag bytes)
    (declared : frame.body.length = (headerBodyLength bytes).toNat) : frame.header = bytes := by
  -- Four bytes decode to a number that a word holds, so nothing is lost on the way back.
  have split : bytes.length = 8 := width
  have tagWidth : (bytes.take 4).length = 4 := by simp [split]
  have lengthWidth : (bytes.drop 4).length = 4 := by simp [split]
  have tagBytes : BigEndian.encode 4 frame.tag.toNat = bytes.take 4 := by
    have fits := BigEndian.decode_lt (bytes.take 4)
    have back := BigEndian.encode_decode (bytes.take 4)
    rw [tagWidth] at fits back
    rw [tag, headerTag, UInt32.toNat_ofNat_of_lt' fits, back]
  have lengthBytes : BigEndian.encode 4 frame.body.length = bytes.drop 4 := by
    have fits := BigEndian.decode_lt (bytes.drop 4)
    have back := BigEndian.encode_decode (bytes.drop 4)
    rw [lengthWidth] at fits back
    rw [declared, headerBodyLength, UInt32.toNat_ofNat_of_lt' fits, back]
  rw [header, tagBytes, lengthBytes, List.take_append_drop]

/-- The frame that bytes start with and what follows it, once all of the frame is there. -/
def first? (bytes : Bytes) : Option (Frame × Bytes) :=
  let header := bytes.take headerLength
  let body := (bytes.drop headerLength).take (headerBodyLength header).toNat
  if whole : header.length = headerLength ∧ body.length = (headerBodyLength header).toNat then
    some (⟨headerTag header, body, whole.2 ▸ (headerBodyLength header).toNat_lt⟩,
      bytes.drop (headerLength + body.length))
  else none

/-- Where there are no bytes, there is no frame. -/
@[simp] theorem first?_nil : first? [] = none := rfl

/-- A frame is found in front of whatever follows it. -/
@[simp] theorem first?_encode_append (frame : Frame) (rest : Bytes) :
    first? (frame.encode ++ rest) = some (frame, rest) := by
  -- The header is what it was written as, so it declares the body that follows it.
  have head : (frame.encode ++ rest).take headerLength = frame.header := by
    rw [encode_eq, List.append_assoc, List.take_left' (length_header frame)]
  have body : ((frame.encode ++ rest).drop headerLength).take frame.body.length = frame.body := by
    rw [encode_eq, List.append_assoc, List.drop_left' (length_header frame), List.take_left' rfl]
  have tail : (frame.encode ++ rest).drop (headerLength + frame.body.length) = rest :=
    List.drop_left' (length_encode frame)
  simp [first?, head, body, tail]

/-- A frame that was found is what the bytes start with. -/
theorem eq_of_first? {bytes rest : Bytes} {frame : Frame}
    (found : first? bytes = some (frame, rest)) : bytes = frame.encode ++ rest := by
  simp only [first?] at found
  split at found
  · -- The bytes are cut into the header, the body that it declares, and what follows.
    rename_i whole
    obtain ⟨headWidth, bodyWidth⟩ := whole
    simp only [Option.some.injEq, Prod.mk.injEq] at found
    obtain ⟨same, rfl⟩ := found
    have tag : frame.tag = headerTag (bytes.take headerLength) := by rw [← same]
    have body : frame.body = (bytes.drop headerLength).take
        (headerBodyLength (bytes.take headerLength)).toNat := by rw [← same]
    have written := header_eq headWidth tag (body ▸ bodyWidth)
    rw [encode_eq, written, body, bodyWidth, ← List.drop_drop, List.append_assoc,
      List.take_append_drop, List.take_append_drop]
  · simp at found

/-- A frame is found exactly in front of the bytes that start with it. -/
theorem first?_eq_some_iff {bytes rest : Bytes} {frame : Frame} :
    first? bytes = some (frame, rest) ↔ bytes = frame.encode ++ rest := by
  constructor
  · exact eq_of_first?
  · rintro rfl
    exact first?_encode_append frame rest

/-- No frame is found exactly where no complete frame stands. -/
theorem first?_eq_none_iff {bytes : Bytes} :
    first? bytes = none ↔ ¬ ∃ frame tail, bytes = encode frame ++ tail := by
  constructor
  · rintro absent ⟨frame, tail, rfl⟩
    simp at absent
  · intro absent
    cases found : first? bytes with
    | none => rfl
    | some pair => exact absurd ⟨pair.1, pair.2, eq_of_first? found⟩ absent

/-- Bytes start with one frame at most. -/
theorem encode_append_inj {left right : Frame} {leftRest rightRest : Bytes}
    (same : left.encode ++ leftRest = right.encode ++ rightRest) :
    left = right ∧ leftRest = rightRest := by
  -- Both are the answer to the same question.
  have found := first?_encode_append left leftRest
  rw [same, first?_encode_append] at found
  simpa [eq_comm] using found

end Frame

namespace Frame.Splits

variable {bytes rest : Bytes} {frames : List Frame}

/-- Bytes that no frame starts are a rest of their own. -/
theorem of_first?_eq_none (absent : first? bytes = none) : Splits bytes [] bytes :=
  ⟨rfl, first?_eq_none_iff.mp absent⟩

/-- No frame is found in the rest. -/
theorem first?_rest (split : Splits bytes frames rest) : first? rest = none :=
  first?_eq_none_iff.mpr split.stuck

/-- A frame in front of the bytes is the first of their frames. -/
theorem cons (frame : Frame) (split : Splits bytes frames rest) :
    Splits (frame.encode ++ bytes) (frame :: frames) rest :=
  ⟨by rw [split.joined, List.flatMap_cons, List.append_assoc], split.stuck⟩

/-- The first frame taken away leaves the others. -/
theorem tail {frame : Frame} (split : Splits bytes (frame :: frames) rest) :
    ∃ later, bytes = frame.encode ++ later ∧ Splits later frames rest :=
  ⟨frames.flatMap encode ++ rest, by rw [split.joined, List.flatMap_cons, List.append_assoc],
    rfl, split.stuck⟩

/-- The frames and the rest take up all the bytes. -/
theorem length_eq (split : Splits bytes frames rest) :
    bytes.length = totalSize frames + rest.length := by
  rw [split.joined, List.length_append, length_flatMap_encode]

/-- Behind some of the frames are the other ones. -/
theorem drop (split : Splits bytes frames rest) (count : Nat) :
    Splits (bytes.drop (totalSize (frames.take count))) (frames.drop count) rest := by
  refine ⟨?_, split.stuck⟩
  -- The bytes dropped are exactly those of the first frames.
  have parts : bytes =
      (frames.take count).flatMap encode ++ ((frames.drop count).flatMap encode ++ rest) := by
    rw [← List.append_assoc, ← List.flatMap_append, List.take_append_drop]
    exact split.joined
  rw [parts, List.drop_left' (length_flatMap_encode _)]

/-- In a content that is split from an offset on, the other ones are behind where some end. -/
theorem drop_offset {content : Bytes} {offset : Nat}
    (split : Splits (content.drop offset) frames rest) (count : Nat) :
    Splits (content.drop (offset + totalSize (frames.take count))) (frames.drop count) rest := by
  rw [← List.drop_drop]
  exact split.drop count

/-- More bytes leave the frames as they are; only the rest may become frames. -/
theorem append {more left : Bytes} {later : List Frame} (split : Splits bytes frames rest)
    (grown : Splits (rest ++ more) later left) :
    Splits (bytes ++ more) (frames ++ later) left := by
  -- The rest alone meets the bytes that came, so the new frames are those of both.
  refine ⟨?_, grown.stuck⟩
  rw [split.joined, List.append_assoc, grown.joined, List.flatMap_append, List.append_assoc]

/-- Encoded frames are those frames and no rest. -/
theorem of_flatMap (frames : List Frame) : Splits (frames.flatMap encode) frames [] :=
  ⟨by rw [List.append_nil], first?_eq_none_iff.mp first?_nil⟩

/-- There is no other way to split the bytes. -/
theorem unique {otherFrames : List Frame} {otherRest : Bytes} (split : Splits bytes frames rest)
    (other : Splits bytes otherFrames otherRest) :
    otherFrames = frames ∧ otherRest = rest := by
  -- Frame by frame both lists start with the one frame that stands there.
  induction frames generalizing bytes otherFrames with
  | nil =>
    have whole : bytes = rest := by simpa using split.joined
    cases otherFrames with
    | nil => exact ⟨rfl, by simpa [whole] using other.joined.symm⟩
    | cons frame others =>
      -- A frame would stand in front of the rest.
      obtain ⟨later, parts, _⟩ := other.tail
      exact absurd ⟨frame, later, whole ▸ parts⟩ split.stuck
  | cons frame frames ih =>
    obtain ⟨later, parts, splitLater⟩ := split.tail
    cases otherFrames with
    | nil =>
      have whole : bytes = otherRest := by simpa using other.joined
      exact absurd ⟨frame, later, whole ▸ parts⟩ other.stuck
    | cons otherFrame others =>
      obtain ⟨otherLater, otherParts, otherSplitLater⟩ := other.tail
      obtain ⟨rfl, rfl⟩ := encode_append_inj (parts.symm.trans otherParts)
      obtain ⟨rfl, rfl⟩ := ih splitLater otherSplitLater
      exact ⟨rfl, rfl⟩

end Frame.Splits

/-- Bytes start with one list of frames of a size. -/
theorem Frame.eq_of_flatMap_prefix {bytes : Bytes} {left right : List Frame}
    (leftBegins : left.flatMap encode <+: bytes) (rightBegins : right.flatMap encode <+: bytes)
    (sizes : totalSize left = totalSize right) : left = right := by
  -- Beginnings of one length are the same, and split in one way.
  have lengths : (left.flatMap encode).length = (right.flatMap encode).length := by
    rw [length_flatMap_encode, length_flatMap_encode, sizes]
  have within := List.prefix_of_prefix_length_le leftBegins rightBegins (Nat.le_of_eq lengths)
  have same : left.flatMap encode = right.flatMap encode := within.eq_of_length lengths
  have split := Splits.of_flatMap right
  rw [← same] at split
  exact (split.unique (.of_flatMap left)).1

/-- All bytes can be split into frames and a rest. -/
theorem Frame.exists_splits (bytes : Bytes) : ∃ frames rest, Splits bytes frames rest := by
  -- Taking a frame away leaves fewer bytes, for a header is never empty.
  induction size : bytes.length using Nat.strongRecOn generalizing bytes with
  | ind length ih =>
    cases found : first? bytes with
    | none => exact ⟨[], bytes, .of_first?_eq_none found⟩
    | some pair =>
      obtain ⟨frame, later⟩ := pair
      have parts := eq_of_first? found
      have large := headerLength_le_size frame
      have header : headerLength = 8 := rfl
      have shorter : later.length < length := by
        rw [← size, parts, List.length_append, length_encode]
        omega
      obtain ⟨frames, rest, split⟩ := ih later.length shorter later rfl
      exact ⟨frame :: frames, rest, parts ▸ split.cons frame⟩

namespace Frame.Splits

variable {content rest : Bytes} {start : Nat}

/-- A content that grows keeps its frames from an offset on; the rest and what came may hold further
ones together. -/
theorem grow {grown : Bytes} {frames : List Frame} (split : Splits (content.drop start) frames rest)
    (begins : content <+: grown) :
    ∃ more left, Splits (grown.drop start) (frames ++ more) left := by
  obtain ⟨added, behind⟩ := Bytes.prefix_drop begins start
  obtain ⟨more, left, splitMore⟩ := exists_splits (rest ++ added)
  exact ⟨more, left, behind ▸ split.append splitMore⟩

/-- Frames from an offset on end within the content, unless they start behind all of it. -/
theorem offset_le {passed later : List Frame}
    (split : Splits (content.drop start) (passed ++ later) rest) :
    start + totalSize passed ≤ max start content.length := by
  have covered := split.length_eq
  rw [totalSize_append, List.length_drop] at covered
  omega

end Frame.Splits

end Unified2
