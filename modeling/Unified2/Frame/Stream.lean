import Unified2.Frame.Source

/-! Bytes in memory, read in pieces that a schedule decides. -/

namespace Unified2

/-- The content, the position in it, and how much each coming read may give. -/
structure Stream where
  content : Bytes
  position : Nat := 0
  /-- A limit for each of the coming reads; a read without a limit here gives nothing at all. -/
  schedule : List (Option Nat) := []
  /-- The limit of the reads after the schedule, if there is one. -/
  chunk : Option Nat := none
  deriving Repr

namespace Stream

/-- How many bytes the next read may give when so many are asked for. -/
def allowance (stream : Stream) (asked : Nat) : Nat :=
  match stream.schedule with
  | some limit :: _ => min limit asked
  -- A read that has no answer yet looks like one at the end.
  | none :: _ => 0
  | [] => match stream.chunk with
    | some limit => min limit asked
    | none => asked

/-- The bytes from the position on; there are none past the end. -/
def ahead (stream : Stream) : Bytes := stream.content.drop stream.position

/-- One read, which uses up an entry of the schedule even if it gives nothing. -/
def read (stream : Stream) (asked : Nat) : Bytes × Stream :=
  let given := stream.ahead.take (stream.allowance asked)
  (given, { stream with
    -- What was allowed and is not there is not made up for by the next read.
    position := stream.position + given.length, schedule := stream.schedule.tail })

/-- Adds bytes at the end and leaves the position. -/
def append (stream : Stream) (bytes : Bytes) : Stream :=
  { stream with content := stream.content ++ bytes }

instance : ByteSource Stream where
  position := Stream.position
  seek stream position := { stream with position }
  read := Stream.read
  remaining stream := stream.content.length - stream.position

end Stream

end Unified2
