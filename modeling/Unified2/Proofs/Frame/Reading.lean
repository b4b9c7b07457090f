import Unified2.Proofs.Frame.Stream
import Unified2.Proofs.Frame.Sweep

/-! Reading a stream whose reads are not cut short gives the frames of its content, one after the
other, and then says what is left. -/

namespace Unified2

namespace Stream

open ByteSource

/-- The stream at one of the boundaries between the frames behind an offset. -/
def atFrame (content : Bytes) (start : Nat) (frames : List Frame) (index : Nat) : Stream :=
  { content, position := start + Frame.totalSize (frames.take index) }

/-- The stream after so many records were read from it, corrupt ones among them. -/
def afterRecords (stream : Stream) : Nat → Stream
  | 0 => stream
  | count + 1 => (readRecord (stream.afterRecords count)).2

/-- A stream that was not cut short is known by its content and its position. -/
theorem eq_of_advanced {content : Bytes} {position bytes : Nat} {after : Stream}
    (advanced : uncutBacking.Advanced ({ content, position } : Stream) after bytes) :
    after = { content, position := position + bytes } := by
  obtain ⟨⟨noSchedule, noChunk⟩, sameContent, moved⟩ := advanced
  cases after
  simp only [uncutBacking] at sameContent
  simp only [ByteSource.position] at moved
  simp_all

section

variable {content rest : Bytes} {start : Nat} {frames : List Frame}
  (split : Frame.Splits (content.drop start) frames rest)

include split

/-- What lies ahead of a boundary are the frames behind it. -/
theorem splits_atFrame (index : Nat) :
    Frame.Splits (uncutBacking.ahead (atFrame content start frames index))
      (frames.drop index) rest :=
  split.drop_offset index

/-- A read at a boundary gives the frame behind it and goes on to the next boundary. -/
theorem readFrame_atFrame {index : Nat} {frame : Frame} (stands : frames[index]? = some frame) :
    readFrame (atFrame content start frames index) =
      (.ok frame, atFrame content start frames (index + 1)) := by
  -- The frame is the first of those behind the boundary, and passing it adds its size.
  obtain ⟨within, rfl⟩ := List.getElem?_eq_some_iff.mp stands
  have behind := splits_atFrame split index
  rw [List.drop_eq_getElem_cons within] at behind
  obtain ⟨later, parts, _⟩ := behind.tail
  obtain ⟨read, advanced⟩ := Backing.readFrame_of_first? uncutBacking_steady ⟨rfl, rfl⟩
    (Frame.first?_eq_some_iff.mpr parts)
  have moved := eq_of_advanced advanced
  rw [← Prod.eta (readFrame _), read, moved, atFrame, Frame.totalSize_take_succ stands,
    Nat.add_assoc]

/-- A read behind the last frame tells what the rest is and stays. -/
theorem readFrame_atRest :
    readFrame (atFrame content start frames frames.length) =
      (.error (.ofRest rest), atFrame content start frames frames.length) := by
  -- No frame is left behind this boundary, so the rest is all that is ahead.
  have behind := splits_atFrame split frames.length
  rw [List.drop_length] at behind
  have whole : uncutBacking.ahead (atFrame content start frames frames.length) = rest := by
    simpa using behind.joined
  obtain ⟨short, advanced⟩ := Backing.readFrame_of_first?_eq_none uncutBacking_steady
    (show uncutBacking.sound (atFrame content start frames frames.length) from ⟨rfl, rfl⟩)
    (whole ▸ behind.first?_rest)
  have stayed := eq_of_advanced advanced
  rw [← Prod.eta (readFrame _), short, stayed, whole]
  rfl

/-- Reading records goes from boundary to boundary, and stays at the last one. -/
theorem afterRecords_atFrame (count : Nat) :
    (atFrame content start frames 0).afterRecords count =
      atFrame content start frames (min count frames.length) := by
  -- A corrupt frame is passed like any other, and past the last one every read stays.
  induction count with
  | zero => simp [afterRecords]
  | succ count ih =>
    rw [afterRecords, ih, readRecord_snd]
    by_cases within : count < frames.length
    · have stands : frames[count]? = some frames[count] := List.getElem?_eq_getElem within
      rw [Nat.min_eq_left (by omega), readFrame_atFrame split stands, Nat.min_eq_left within]
    · rw [Nat.min_eq_right (by omega), readFrame_atRest split, Nat.min_eq_right (by omega)]

/-- A fresh iterator at a boundary yields the records behind it up to the first corrupt frame or
the end, and leaves the stream behind what it read. -/
theorem iterate_atFrame (index : Nat) :
    let before := Frame.beforeCorrupt (frames.drop index)
    let sweep := SweepRule.plain.sweep none (atFrame content start frames index)
    sweep.records = before.filterMap (·.decode.toOption) ∧
      match frames[index + before.length]? with
      | none => sweep.ending = .shortfall (.ofRest rest) ∧
          sweep.source = atFrame content start frames (index + before.length)
      | some corrupt => (∃ error, corrupt.decode = .error error ∧ sweep.ending = .corrupt error) ∧
          sweep.source = atFrame content start frames (index + (before.length + 1)) := by
  intro before sweep
  -- An iterator is a sweep without a limit that stops at a corrupt frame.
  obtain ⟨shown, ended, advanced⟩ := SweepRule.plain.sweep_spec uncutBacking_steady
    (show uncutBacking.sound (atFrame content start frames index) from ⟨rfl, rfl⟩)
    (splits_atFrame split index) none
  have stops := SweepRule.pass_unlimited_stopping
    (show SweepRule.plain.stopAtCorrupt = true from rfl) (frames.drop index)
  -- What is passed before a corrupt frame is a beginning of the frames behind the boundary.
  have begins : (frames.drop index).take before.length = before :=
    (List.prefix_iff_eq_take.mp (List.takeWhile_prefix _)).symm
  have moved := eq_of_advanced advanced
  rw [Nat.add_assoc, ← Frame.totalSize_take_add] at moved
  rw [List.getElem?_drop] at stops
  cases next : frames[index + before.length]? with
  | none =>
    rw [next] at stops
    simp only [Option.map_none, stops] at shown ended moved
    refine ⟨?_, ended, moved⟩
    rw [Sweep.records, shown, Frame.filterMap_outcome_sightings, begins]
  | some corrupt =>
    rw [next] at stops
    obtain ⟨error, decoded, ends⟩ := stops
    simp only [Option.map_none, ends] at shown ended moved
    refine ⟨?_, ⟨error, decoded, ended⟩, moved⟩
    -- The corrupt frame itself yields no record.
    rw [Sweep.records, shown, Frame.filterMap_outcome_sightings, List.take_add_one, begins,
      List.getElem?_drop, next, List.filterMap_append]
    simp [decoded, Except.toOption]

/-- The records read one after the other are those of the frames, and what follows them is the
shortfall of the rest. -/
theorem readRecord_afterRecords (count : Nat) :
    match frames[count]? with
    | some frame =>
      readRecord ((atFrame content start frames 0).afterRecords count) =
        (.ok frame.decode, atFrame content start frames (count + 1))
    | none =>
      readRecord ((atFrame content start frames 0).afterRecords count) =
        (.error (.ofRest rest), atFrame content start frames frames.length) := by
  rw [afterRecords_atFrame split]
  cases stands : frames[count]? with
  | some frame =>
    have within := (List.getElem?_eq_some_iff.mp stands).1
    rw [Nat.min_eq_left (Nat.le_of_lt within), readRecord, readFrame_atFrame split stands]
    rfl
  | none =>
    have past := List.getElem?_eq_none_iff.mp stands
    rw [Nat.min_eq_right past, readRecord, readFrame_atRest split]
    rfl

end

/-- Every content from every offset on is frames and a rest in one way. Record after record, reading
gives what these frames decode to and then the shortfall of the rest; iterators give the same up to
the first corrupt frame, and the next one goes on behind it. Frames that were written one after the
other are the ones that are read. -/
theorem records_are_those_of_frames (content : Bytes) (start : Nat) :
    (∃ frames rest, Frame.Splits (content.drop start) frames rest ∧
      (∀ otherFrames otherRest, Frame.Splits (content.drop start) otherFrames otherRest →
        otherFrames = frames ∧ otherRest = rest) ∧
      (∀ count, match frames[count]? with
        | some frame =>
          (readRecord (afterRecords { content, position := start } count)).1 = .ok frame.decode ∧
            (afterRecords { content, position := start } (count + 1)).position =
              start + Frame.totalSize (frames.take (count + 1))
        | none =>
          (readRecord (afterRecords { content, position := start } count)).1 =
              .error (if rest = [] then .endOfStream else .incomplete) ∧
            (afterRecords { content, position := start } (count + 1)).position =
              start + Frame.totalSize frames) ∧
      ∀ index,
        let before := Frame.beforeCorrupt (frames.drop index)
        let iteration := SweepRule.plain.sweep none (atFrame content start frames index)
        iteration.records = before.filterMap (·.decode.toOption) ∧
          match frames[index + before.length]? with
          | none =>
            iteration.ending = .shortfall (if rest = [] then .endOfStream else .incomplete) ∧
              iteration.source = atFrame content start frames (index + before.length)
          | some corrupt =>
            (∃ error, corrupt.decode = .error error ∧ iteration.ending = .corrupt error) ∧
              iteration.source = atFrame content start frames (index + (before.length + 1))) ∧
    ∀ written : List Frame, ∀ count,
      let stream := afterRecords { content := written.flatMap Frame.encode } count
      match written[count]? with
      | some frame =>
        (readFrame stream).1 = .ok frame ∧ (readRecord stream).1 = .ok frame.decode
      | none => (readRecord stream).1 = .error .endOfStream := by
  constructor
  · obtain ⟨frames, rest, split⟩ := Frame.exists_splits (content.drop start)
    refine ⟨frames, rest, split, fun _ _ => split.unique, ?_, fun index => ?_⟩
    · intro count
      have reading := readRecord_afterRecords split count
      cases stands : frames[count]? with
      | some frame =>
        rw [stands] at reading
        exact ⟨congrArg Prod.fst reading, congrArg (·.2.position) reading⟩
      | none =>
        rw [stands] at reading
        refine ⟨congrArg Prod.fst reading, (congrArg (·.2.position) reading).trans ?_⟩
        rw [atFrame, List.take_length]
    · exact iterate_atFrame split index
  · intro written count stream
    have split : Frame.Splits ((written.flatMap Frame.encode).drop 0) written [] :=
      .of_flatMap written
    have reading := readRecord_afterRecords split count
    cases stands : written[count]? with
    | some frame =>
      rw [stands] at reading
      have within := (List.getElem?_eq_some_iff.mp stands).1
      have reached := afterRecords_atFrame split count
      rw [Nat.min_eq_left (Nat.le_of_lt within)] at reached
      have raw := readFrame_atFrame split stands
      exact ⟨by rw [← reached] at raw; exact congrArg Prod.fst raw, congrArg Prod.fst reading⟩
    | none =>
      rw [stands] at reading
      exact congrArg Prod.fst reading

end Stream

end Unified2
