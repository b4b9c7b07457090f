import Unified2.Frame.Stream
import Unified2.Proofs.Frame.Source

/-! Whatever limits the reads of a stream, the frames read from it are its content as far as the
position went. -/

namespace Unified2

namespace Stream

open ByteSource

/-- A read never may give more than it was asked for. -/
theorem allowance_le (stream : Stream) (asked : Nat) : stream.allowance asked ≤ asked := by
  -- Every limit is combined with what was asked for.
  unfold allowance
  split
  · exact Nat.min_le_right ..
  · exact Nat.zero_le _
  · split
    · exact Nat.min_le_right ..
    · exact Nat.le_refl _

/-- A stream reads from its content, whatever its schedule is. -/
def backing : Backing Stream where
  content := Stream.content
  sound _ := True
  read_begins _ _ _ := List.take_prefix ..
  length_read_le stream asked _ := by
    have allowed := allowance_le stream asked
    have given := List.length_take_le (stream.allowance asked) stream.ahead
    exact Nat.le_trans given allowed
  sound_read _ _ _ := trivial
  content_read _ _ _ := rfl
  position_read _ _ _ := rfl
  sound_seek _ _ _ := trivial
  content_seek _ _ _ := rfl
  position_seek _ _ _ := rfl
  length_le_remaining stream _ := Nat.le_of_eq List.length_drop

/-- Nothing cuts a read short. -/
def Uncut (stream : Stream) : Prop :=
  -- There is no limit on any read to come.
  stream.schedule = [] ∧ stream.chunk = none

/-- A stream whose reads are never cut short. -/
def uncutBacking : Backing Stream where
  content := Stream.content
  sound := Uncut
  read_begins _ _ _ := backing.read_begins _ _ trivial
  length_read_le _ _ _ := backing.length_read_le _ _ trivial
  sound_read stream _ uncut := ⟨by simp [ByteSource.read, Stream.read, uncut.1], uncut.2⟩
  content_read _ _ _ := rfl
  position_read _ _ _ := rfl
  sound_seek _ _ uncut := uncut
  content_seek _ _ _ := rfl
  position_seek _ _ _ := rfl
  length_le_remaining _ _ := backing.length_le_remaining _ trivial

/-- Reads that are not cut short give something as long as there is anything. -/
theorem uncutBacking_steady : uncutBacking.Steady := by
  intro stream asked uncut positive left
  -- Without a limit a read gives all that it was asked for.
  have allowed : stream.allowance asked = asked := by simp [allowance, uncut.1, uncut.2]
  have given : (ByteSource.read stream asked).1 = stream.ahead.take asked := by
    simp [ByteSource.read, Stream.read, allowed]
  rw [given]
  intro nothing
  rcases List.take_eq_nil_iff.mp nothing with none | none
  · omega
  · exact left none

/-- What happens to a stream while frames are read from it. -/
inductive Event
  | readFrame
  | append (bytes : Bytes)
  /-- The coming reads are limited in another way. -/
  | limit (schedule : List (Option Nat)) (chunk : Option Nat)
  deriving Repr

/-- The frames that were read while events happened one after the other, and the stream after
the last of them. -/
def run : Stream → List Event → List Frame × Stream
  | stream, [] => ([], stream)
  | stream, .readFrame :: events =>
    let (answer, stream) := readFrame stream
    let (frames, stream) := run stream events
    -- An answer without a frame adds nothing.
    (answer.toOption.toList ++ frames, stream)
  | stream, .append bytes :: events => run (stream.append bytes) events
  | stream, .limit schedule chunk :: events => run { stream with schedule, chunk } events

/-- A run only ever adds to the content, and its position follows the frames that were read. -/
theorem run_spec (stream : Stream) (events : List Event) :
    stream.content <+: (stream.run events).2.content ∧
    (stream.run events).2.position =
      stream.position + Frame.totalSize (stream.run events).1 ∧
    (stream.run events).1.flatMap Frame.encode <+:
      (stream.run events).2.content.drop stream.position := by
  induction events generalizing stream with
  | nil => simp [run]
  | cons event events ih =>
    cases event with
    | append bytes =>
      -- The content before is a beginning of the content after.
      obtain ⟨grows, moves, reads⟩ := ih (stream.append bytes)
      exact ⟨(List.prefix_append ..).trans grows, moves, reads⟩
    | limit schedule chunk => exact ih { stream with schedule, chunk }
    | readFrame =>
      cases answered : readFrame stream with
      | mk answer after =>
        obtain ⟨grows, moves, reads⟩ := ih after
        rcases backing.readFrame_spec (show backing.sound stream from trivial) with
          ⟨frame, read, next, advanced⟩ | ⟨reason, short, _, advanced⟩
        · rw [answered] at read advanced
          have same : after.content = stream.content := advanced.content_eq
          have passed : after.position = stream.position + frame.size := advanced.position_eq
          simp only at read
          rw [same] at grows
          rw [passed] at moves reads
          simp only [run, answered, read, Except.toOption, Option.toList, List.singleton_append,
            Frame.totalSize_cons, List.flatMap_cons]
          -- The frame stands where it was read, and the frames after it right behind it.
          have stands : frame.encode <+: (run after events).2.content.drop stream.position :=
            next.trans (Bytes.prefix_drop grows stream.position)
          refine ⟨grows, by omega, Bytes.prefix_append_of_drop stands ?_⟩
          rw [List.drop_drop, Frame.length_encode]
          exact reads
        · rw [answered] at short advanced
          have same : after.content = stream.content := advanced.content_eq
          have stayed : after.position = stream.position := advanced.position_eq
          simp only at short
          rw [same] at grows
          rw [stayed] at moves reads
          simp only [run, answered, short, Except.toOption, Option.toList, List.nil_append]
          exact ⟨grows, moves, reads⟩

/-- Under every schedule a read passes one whole frame or goes back to its start, so that after
any events the frames read are the content between the first position and the last. -/
theorem frames_are_content (stream : Stream) :
    (match readFrame stream with
      | (.ok frame, after) =>
        (stream.content.drop stream.position).take frame.size = frame.encode ∧
          after.position = stream.position + frame.size ∧ after.content = stream.content
      | (.error reason, after) =>
        (reason = .endOfStream ↔ (gather stream Frame.headerLength).1 = []) ∧
          after.position = stream.position ∧ after.content = stream.content) ∧
    ∀ events, match stream.run events with
      | (frames, after) =>
        frames.flatMap Frame.encode =
            (after.content.drop stream.position).take (after.position - stream.position) ∧
          after.position = stream.position + Frame.totalSize frames := by
  constructor
  · -- One call ends in one of two ways.
    cases answered : readFrame stream with
    | mk answer after =>
      rcases backing.readFrame_spec (show backing.sound stream from trivial) with
        ⟨frame, read, next, advanced⟩ | ⟨reason, short, cause, advanced⟩
      · rw [answered] at read advanced
        simp only at read
        subst read
        have begins := List.prefix_iff_eq_take.mp next
        rw [Frame.length_encode] at begins
        exact ⟨begins.symm, advanced.position_eq, advanced.content_eq⟩
      · rw [answered] at short advanced
        simp only at short
        subst short
        exact ⟨cause, advanced.position_eq, advanced.content_eq⟩
  · -- Over a run the frames read make up all that the position passed.
    intro events
    obtain ⟨_, moves, reads⟩ := run_spec stream events
    have begins := List.prefix_iff_eq_take.mp reads
    rw [Frame.length_flatMap_encode] at begins
    exact ⟨by rw [moves, Nat.add_sub_cancel_left]; exact begins, moves⟩

end Stream

end Unified2
