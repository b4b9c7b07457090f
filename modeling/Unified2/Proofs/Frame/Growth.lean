import Unified2.Proofs.Frame.Stream

/-! What a frame reader said of a content it may say of a longer one: a frame stays the frame that
it is, and an incomplete one becomes whole at the length that its header declares. -/

namespace Unified2

namespace Frame

/-- The body length that the header in front of some bytes declares. -/
def declaredLength (bytes : Bytes) : Nat := (headerBodyLength (bytes.take headerLength)).toNat

/-- A frame that was found is found again when more bytes follow. -/
theorem first?_append {bytes rest : Bytes} {frame : Frame}
    (found : first? bytes = some (frame, rest)) (more : Bytes) :
    first? (bytes ++ more) = some (frame, rest ++ more) := by
  rw [eq_of_first? found, List.append_assoc]
  exact first?_encode_append frame (rest ++ more)

/-- A frame that was found has the tag and the body that stand behind one another. -/
theorem parts_of_first? {bytes rest : Bytes} {frame : Frame}
    (found : first? bytes = some (frame, rest)) :
    frame.tag = headerTag (bytes.take headerLength) ∧
      frame.body = (bytes.drop headerLength).take (declaredLength bytes) ∧
      frame.body.length = declaredLength bytes := by
  -- The bytes in front are the header of the frame, and its body is right behind them.
  have parts : bytes = frame.header ++ (frame.body ++ rest) := by
    rw [eq_of_first? found, encode_eq, List.append_assoc]
  have front : bytes.take headerLength = frame.header := by
    rw [parts, List.take_left' (length_header frame)]
  have behind : bytes.drop headerLength = frame.body ++ rest := by
    rw [parts, List.drop_left' (length_header frame)]
  have declared : declaredLength bytes = frame.body.length := by
    rw [declaredLength, front, headerBodyLength_header]
  exact ⟨by rw [front, headerTag_header], by rw [behind, declared, List.take_left' rfl],
    declared.symm⟩

/-- Behind a whole header a frame is found exactly when the bytes are as many as it declares. -/
theorem exists_first?_iff {bytes : Bytes} (header : headerLength ≤ bytes.length) :
    (∃ frame rest, first? bytes = some (frame, rest)) ↔
      headerLength + declaredLength bytes ≤ bytes.length := by
  constructor
  · rintro ⟨frame, rest, found⟩
    have size : bytes.length = frame.size + rest.length := by
      rw [eq_of_first? found, List.length_append, length_encode]
    have declared := (parts_of_first? found).2.2
    rw [size, Frame.size]
    omega
  · intro long
    -- Both the header and the body are there in full, which is all that is asked for.
    have width : (bytes.take headerLength).length = headerLength :=
      List.length_take_of_le header
    have whole : ((bytes.drop headerLength).take (declaredLength bytes)).length =
        declaredLength bytes := by
      rw [List.length_take, List.length_drop]
      omega
    exact ⟨_, _, dif_pos ⟨width, whole⟩⟩

end Frame

namespace Stream

open ByteSource

/-- What a stream that is not cut short reads depends on the bytes behind its position. -/
theorem readFrame_uncut (content : Bytes) (position : Nat) :
    match Frame.first? (content.drop position) with
    | some (frame, _) =>
      (readFrame ({ content, position } : Stream)).1 = .ok frame ∧
        (readFrame ({ content, position } : Stream)).2.position = position + frame.size
    | none =>
      (readFrame ({ content, position } : Stream)).1 =
        .error (.ofRest (content.drop position)) := by
  have sound : uncutBacking.sound ({ content, position } : Stream) := ⟨rfl, rfl⟩
  cases found : Frame.first? (content.drop position) with
  | some pair =>
    obtain ⟨read, advanced⟩ := Backing.readFrame_of_first? uncutBacking_steady sound found
    exact ⟨read, advanced.position_eq⟩
  | none => exact (Backing.readFrame_of_first?_eq_none uncutBacking_steady sound found).1

/-- What stands behind a position stands there still when a content grows. -/
theorem exists_drop_append (content more : Bytes) (position : Nat) :
    ∃ behind, (content ++ more).drop position = content.drop position ++ behind := by
  obtain ⟨behind, same⟩ := Bytes.prefix_drop (List.prefix_append content more) position
  exact ⟨behind, same.symm⟩

/-- A frame that is read from a content is read from every longer one, and leaves the same
position. -/
theorem readFrame_append {content : Bytes} {position : Nat} {frame : Frame}
    (read : (readFrame ({ content, position } : Stream)).1 = .ok frame) (more : Bytes) :
    let grown := Stream.append { content, position } more
    (readFrame grown).1 = .ok frame ∧
      (readFrame grown).2.position = (readFrame ({ content, position } : Stream)).2.position := by
  intro grown
  have before := readFrame_uncut content position
  cases found : Frame.first? (content.drop position) with
  | none => simp [found, read] at before
  | some pair =>
    obtain ⟨other, rest⟩ := pair
    simp only [found, read, Except.ok.injEq] at before
    obtain ⟨rfl, moved⟩ := before
    -- The frame is found in front of the longer content too.
    obtain ⟨behind, longer⟩ := exists_drop_append content more position
    have after := readFrame_uncut (content ++ more) position
    rw [longer, Frame.first?_append found] at after
    exact ⟨after.1, after.2.trans moved.symm⟩

/-- A content with something behind the position has no end there when it grows. -/
theorem readFrame_append_ne_endOfStream {content : Bytes} {position : Nat}
    (short : (readFrame ({ content, position } : Stream)).1 = .error .incomplete) (more : Bytes) :
    (readFrame (Stream.append { content, position } more)).1 ≠ .error .endOfStream := by
  have before := readFrame_uncut content position
  have after := readFrame_uncut (content ++ more) position
  obtain ⟨behind, longer⟩ := exists_drop_append content more position
  -- Only a rest without one byte is an end.
  have left : content.drop position ≠ [] := by
    intro spent
    simp [spent, short, Shortfall.ofRest] at before
  have leftStill : (content ++ more).drop position ≠ [] := by simp [longer, left]
  change (readFrame ({ content := content ++ more, position } : Stream)).1 ≠ _
  split at after
  · simp [after.1]
  · simp [after, Shortfall.ofRest, leftStill]

/-- Behind a whole header a longer content gives a frame exactly when it reaches the length that the
header declares; the frame has the tag of that header, and a body that begins with the bytes that
were there. -/
theorem readFrame_append_of_header {content : Bytes} {position : Nat}
    (header : position + Frame.headerLength ≤ content.length) (more : Bytes) :
    let declared := Frame.declaredLength (content.drop position)
    let grown := Stream.append { content, position } more
    ((∃ frame, (readFrame grown).1 = .ok frame) ↔
      position + Frame.headerLength + declared ≤ (content ++ more).length) ∧
    ∀ frame, (readFrame grown).1 = .ok frame →
      frame.tag = Frame.headerTag ((content.drop position).take Frame.headerLength) ∧
        frame.body.length = declared ∧
        (content.drop (position + Frame.headerLength)).take declared <+: frame.body := by
  intro declared grown
  have after := readFrame_uncut (content ++ more) position
  obtain ⟨behind, longer⟩ := exists_drop_append content more position
  have wide : Frame.headerLength ≤ (content.drop position).length := by
    rw [List.length_drop]
    omega
  -- The header stands in the old bytes, so the new ones change nothing about it.
  have front : ((content ++ more).drop position).take Frame.headerLength =
      (content.drop position).take Frame.headerLength := by
    rw [longer, List.take_append_of_le_length wide]
  have same : Frame.declaredLength ((content ++ more).drop position) = declared := by
    rw [Frame.declaredLength, front]
    rfl
  have reads : ∀ frame, (readFrame grown).1 = .ok frame ↔
      ∃ rest, Frame.first? ((content ++ more).drop position) = some (frame, rest) := by
    intro frame
    change (readFrame ({ content := content ++ more, position } : Stream)).1 = _ ↔ _
    split at after
    · rename_i other rest found
      simp [after.1, found]
    · rename_i absent
      simp [after, absent]
  constructor
  · have wideStill : Frame.headerLength ≤ ((content ++ more).drop position).length := by
      rw [longer, List.length_append]
      omega
    have reaches := Frame.exists_first?_iff wideStill
    rw [same, List.length_drop] at reaches
    simp only [reads]
    rw [reaches, List.length_append]
    omega
  · intro frame read
    obtain ⟨rest, found⟩ := (reads frame).mp read
    obtain ⟨tag, body, length⟩ := Frame.parts_of_first? found
    refine ⟨by rw [tag, front], by rw [length, same], ?_⟩
    rw [body, same, longer, List.drop_append_of_le_length wide, List.drop_drop,
      List.take_append]
    exact List.prefix_append ..

/-- A content may grow while frames are read from it: a frame that was there stays the same frame up
to the same position; an incomplete one stays incomplete or becomes whole, and is no end again;
behind a whole header it becomes whole exactly when the content reaches the length declared, with
the tag and the bytes of the body that were there. -/
theorem outcomes_outlast_growth (content more : Bytes) (position : Nat) :
    let stream : Stream := { content, position }
    let grown := stream.append more
    (∀ frame, (readFrame stream).1 = .ok frame →
      (readFrame grown).1 = .ok frame ∧
        (readFrame grown).2.position = (readFrame stream).2.position) ∧
    ((readFrame stream).1 = .error .incomplete →
      (readFrame grown).1 ≠ .error .endOfStream ∧
        ((readFrame grown).1 = .error .incomplete ∨ ∃ frame, (readFrame grown).1 = .ok frame)) ∧
    (position + Frame.headerLength ≤ content.length →
      let declared := Frame.declaredLength (content.drop position)
      ((∃ frame, (readFrame grown).1 = .ok frame) ↔
        position + Frame.headerLength + declared ≤ (content ++ more).length) ∧
      ∀ frame, (readFrame grown).1 = .ok frame →
        frame.tag = Frame.headerTag ((content.drop position).take Frame.headerLength) ∧
          frame.body.length = declared ∧
          (content.drop (position + Frame.headerLength)).take declared <+: frame.body) := by
  intro stream grown
  refine ⟨fun frame read => readFrame_append read more, fun short => ?_,
    fun header => readFrame_append_of_header header more⟩
  have noEnd : (readFrame grown).1 ≠ .error .endOfStream :=
    readFrame_append_ne_endOfStream short more
  refine ⟨noEnd, ?_⟩
  -- Two of the three outcomes are left.
  cases answer : (readFrame grown).1 with
  | ok frame => exact .inr ⟨frame, rfl⟩
  | error reason =>
    cases reason with
    | endOfStream => exact absurd answer noEnd
    | incomplete => exact .inl rfl

/-- A frame that was cut in its body is incomplete, and whole when the rest of it was appended. -/
theorem outcomes_outlast_growth_of_cut_body :
    let frame : Frame := ⟨9, [1, 2, 3], by decide⟩
    let content := frame.encode.take 9
    let more := frame.encode.drop 9 ++ [7]
    (readFrame ({ content, position := 0 } : Stream)).1 = .error .incomplete ∧
      ∃ whole, (readFrame (Stream.append { content, position := 0 } more)).1 = .ok whole ∧
        whole.tag = 9 ∧ whole.body.length = 3 ∧ [1] <+: whole.body := by
  intro frame content more
  have short : (readFrame ({ content, position := 0 } : Stream)).1 = .error .incomplete := by
    decide +kernel
  obtain ⟨-, -, grows⟩ := outcomes_outlast_growth content more 0
  obtain ⟨reaches, keeps⟩ := grows (by decide)
  obtain ⟨whole, read⟩ := reaches.mpr (by decide +kernel)
  obtain ⟨tag, length, begins⟩ := keeps whole read
  have declared : Frame.declaredLength (content.drop 0) = 3 := by decide +kernel
  rw [declared] at length begins
  exact ⟨short, whole, read, tag.trans (by decide +kernel), length, begins⟩

end Stream

end Unified2
