import Unified2.Frame.Basic

/-! Reading frames from a source whose reads may be cut short. -/

namespace Unified2

/-- A place to read bytes from, with a position that reads move forward. -/
class ByteSource (σ : Type) where
  /-- The offset that the next read starts at. -/
  position : σ → Nat
  /-- Moves the position. -/
  seek : σ → Nat → σ
  /-- Reads some of the bytes at the position, never more than asked for. -/
  read : σ → Nat → Bytes × σ
  /-- How many bytes there are from the position on. -/
  remaining : σ → Nat

/-- Why no frame was read. -/
inductive Shortfall
  /-- There was not one byte. -/
  | endOfStream
  /-- The header or the body was only partly there. -/
  | incomplete
  deriving DecidableEq, Repr

/-- The name of a shortfall in every answer. -/
def Shortfall.name : Shortfall → String
  | endOfStream => "end_of_stream"
  | incomplete => "incomplete"

namespace ByteSource

variable {σ : Type} [ByteSource σ]

/-- Reads on until nothing is missing or a read gives nothing, in at most the given number of
reads; the bytes gathered so far are kept with the last one first. -/
def gatherWithin : (reads missing : Nat) → σ → (gathered : Bytes) → Bytes × σ
  | 0, _, source, gathered => (gathered.reverse, source)
  | reads + 1, missing, source, gathered =>
    if missing = 0 then (gathered.reverse, source)
    else
      -- Only what is missing is asked for, so no byte of the next frame is taken.
      let (chunk, source) := read source missing
      -- A read that gives nothing ends it, even if a later one would give more.
      if chunk.isEmpty then (gathered.reverse, source)
      else gatherWithin reads (missing - chunk.length) source (chunk.reverse ++ gathered)

/-- Gathers bytes from as many reads as it takes; every read that goes on brings one at least. -/
def gather (source : σ) (size : Nat) : Bytes × σ := gatherWithin size size source []

/-- Reads one frame, or leaves the position where it was. -/
def readFrame (source : σ) : Except Shortfall Frame × σ :=
  let start := position source
  let (header, source) := gather source Frame.headerLength
  -- Every way out without a frame goes back to the start, so that the next try sees it whole.
  if header.isEmpty then (.error .endOfStream, seek source start)
  else if header.length < Frame.headerLength then (.error .incomplete, seek source start)
  else
    let declared := Frame.headerBodyLength header
    let (body, source) := gather source declared.toNat
    -- A body of the declared length fits the length field, for that is where the length was read.
    if whole : body.length = declared.toNat then
      (.ok ⟨Frame.headerTag header, body, whole ▸ declared.toNat_lt⟩, source)
    else (.error .incomplete, seek source start)

/-- Reads one frame and decodes it; a corrupt one is passed like any other. -/
def readRecord (source : σ) : Except Shortfall (Except BodyError Record) × σ :=
  let (frame, source) := readFrame source
  (frame.map Frame.decode, source)

end ByteSource

end Unified2
