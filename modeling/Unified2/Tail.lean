import Unified2.File.Reader
import Unified2.Frame.Sweep
import Unified2.Log.Record
import Unified2.Record.Fields

/-! Following one file with one cursor while it grows. -/

namespace Unified2

/-- How many frames of each outcome were passed. -/
structure Tally where
  event : Nat := 0
  packet : Nat := 0
  extraData : Nat := 0
  unknown : Nat := 0
  corrupt : Nat := 0
  deriving DecidableEq, Repr

namespace Tally

/-- Counts a frame. -/
def count (tally : Tally) (sighting : Sighting) : Tally :=
  match sighting.outcome with
  | .error _ => { tally with corrupt := tally.corrupt + 1 }
  | .ok record => match record.kind with
    | .event => { tally with event := tally.event + 1 }
    | .packet => { tally with packet := tally.packet + 1 }
    | .extraData => { tally with extraData := tally.extraData + 1 }
    | .unknown => { tally with unknown := tally.unknown + 1 }

/-- The counts, each under its name. -/
def fieldList (tally : Tally) : FieldList := [
  ("event", .number tally.event),
  ("packet", .number tally.packet),
  ("extra_data", .number tally.extraData),
  ("unknown", .number tally.unknown),
  ("corrupt", .number tally.corrupt)]

end Tally

/-- Why a poll gave no records. -/
inductive PollError
  | file (error : FileError)
  | corrupt (error : BodyError)
  deriving DecidableEq, Repr

/-- A cursor in a file, which is opened when it is first needed. -/
structure Tail where
  path : String
  /-- Whether corrupt records are passed over; else a poll fails at them. -/
  skipCorrupt : Bool := true
  /-- Where the file will be opened. -/
  start : Int
  reader : Option FileReader := none
  /-- Why the last poll found no further record, if one ever did. -/
  shortfall : Option Shortfall := none
  tally : Tally := {}
  deriving DecidableEq, Repr

/-- What a poll answers, the cursor after it, and what it tells the log. -/
structure Poll where
  answer : Except PollError (List Record)
  tail : Tail
  log : List LogRecord

namespace Tail

/-- The component that log records of a cursor name. -/
def component : String := "unified2_mcp.core.tail"

/-- A cursor at an offset of a file. -/
def new (path : String) (start : Int) (skipCorrupt : Bool) : Tail :=
  -- The file need not be there yet, and the offset is not looked at before the first poll.
  { path := FilePath.normalize path, start, skipCorrupt }

/-- The offset of the first frame that was not passed. -/
def offset (tail : Tail) : Int :=
  match tail.reader with
  -- Between two polls an open file stands right behind the last frame that was passed.
  | some reader => reader.position
  | none => tail.start

/-- The open file, opened at the offset if it is not. -/
def openReader (tail : Tail) (store : FileStore) : Except FileError FileReader :=
  match tail.reader with
  -- A file that is open stays the same one, even if the path leads to another by now.
  | some reader => .ok reader
  | none => FileReader.openAt store tail.path tail.start

/-- The rule of a poll: a strict one ends at a corrupt frame. -/
def rule (tail : Tail) : SweepRule :=
  -- The limit is one of known records, so a poll may pass any number of unknown ones.
  { stopAtCorrupt := !tail.skipCorrupt, countUnknown := false }

/-- What the log is told about a frame that a poll passes over. -/
def notice? (tail : Tail) (sighting : Sighting) : Option LogRecord :=
  match sighting.outcome with
  | .ok (.unknown tag) => some {
      component, level := .debug
      message := s!"skipping unknown record type {tag} at offset {sighting.offset}" }
  | .ok _ => none
  | .error error =>
    -- A strict poll does not pass over a corrupt frame: it fails, and the caller is told.
    if tail.skipCorrupt then some {
      component, level := .warning
      message := s!"skipping corrupt record at offset {sighting.offset} in {tail.path}: " ++
        error.message }
    else none

/-- Reads what is complete by now, up to a number of records; a file that cannot be opened leaves
the cursor as it was. -/
def poll (tail : Tail) (store : FileStore) (limit : Option Int) : Poll :=
  match tail.openReader store with
  | .error error => { answer := .error (.file error), tail, log := [] }
  | .ok reader =>
    -- The file is read as it is now, behind what earlier polls have fetched of it.
    let file : OpenFile := { content := store.content reader.number, reader }
    let sweep := tail.rule.sweep limit file
    -- The cursor and the tally move past every sighting, also if the poll ends in a failure.
    let after := { tail with
      reader := some sweep.source.reader
      tally := sweep.sightings.foldl Tally.count tail.tally
      -- A poll that its limit ends says nothing about the end of the file.
      shortfall := match sweep.ending with
        | .shortfall reason => some reason
        | _ => tail.shortfall }
    { answer := match sweep.ending with
        -- The records in front of a corrupt frame are not handed out, though they were passed.
        | .corrupt error => .error (.corrupt error)
        | _ => .ok (sweep.sightings.filterMap Sighting.known?)
      tail := after
      log := sweep.sightings.filterMap tail.notice? }

/-- Closes the file; the next poll opens it where this cursor stands. -/
def close (tail : Tail) : Tail :=
  -- The offset is kept before the file that knows it is given up.
  { tail with start := tail.offset, reader := none }

/-- What a cursor tells about itself. -/
def stats (tail : Tail) : FieldList := [
  ("path", .text tail.path),
  ("offset", .number tail.offset),
  ("last_status", .ofText (tail.shortfall.map Shortfall.name))] ++ tail.tally.fieldList

/-- A poll after which the file is closed, however it went. -/
def pollOnce (tail : Tail) (store : FileStore) (limit : Option Int) : Poll :=
  let poll := tail.poll store limit
  { poll with tail := poll.tail.close }

/-- A bound on the bytes that the cursor has not passed. -/
def unread (tail : Tail) (store : FileStore) : Nat :=
  -- A file that cannot be opened has nothing to pass.
  match tail.openReader store with
  | .ok reader => ByteSource.remaining (OpenFile.mk (store.content reader.number) reader)
  | .error _ => 0

end Tail

end Unified2
