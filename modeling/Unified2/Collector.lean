import Unified2.Queue
import Unified2.Record.Fields
import Unified2.Settings
import Unified2.Tail

/-! Following a file in the background, with a queue between the collector and its readers. -/

namespace Unified2

/-- A point in time, in seconds. -/
abbrev Instant := Binary64

namespace Instant

/-- When time begins. -/
def start : Instant := .finite false 0

/-- How much of the time before a deadline counts as the deadline: a billionth of a second. -/
def resolution : Binary64 := .ofDecimal false 1 (-9)

/-- Whether a deadline has come; one that is no number has come at any time. -/
def isDue (deadline now : Instant) : Bool :=
  -- The comparison is asked the other way round, so a deadline that compares with nothing is due.
  !(now.add resolution).atMost deadline

end Instant

/-- What the background work of a collector waits for. -/
inductive CollectorTask
  /-- There is no work. -/
  | ended
  /-- Its turn, which comes after some ticks in which nothing happens. -/
  | ready (ticks : Nat)
  | parked (deadline : Instant)
  deriving DecidableEq, Repr

/-- A collector between two turns. -/
structure Collector where
  interval : Binary64
  /-- The most records that one turn brings. -/
  batch : Int
  queue : DropQueue
  tail : Option Tail := none
  running : Bool := false
  task : CollectorTask := .ended
  /-- How many records were put into the queue. -/
  ingested : Nat := 0
  /-- The failure of the file that ended the last collection. -/
  lastError : Option String := none
  deriving DecidableEq, Repr

/-- How a request to start was answered. -/
inductive StartAnswer
  | started (path : String) (offset : Int)
  | alreadyRunning
  | noSuchFile (path : String)
  deriving DecidableEq, Repr

/-- The wording of the answer. -/
def StartAnswer.message : StartAnswer → String
  | started path offset => s!"tailing {path} from offset {offset}"
  | alreadyRunning => "already running"
  | noSuchFile path => s!"no such file {path}"

/-- How a request to stop was answered. -/
inductive StopAnswer
  | stopped
  | notRunning
  deriving DecidableEq, Repr

/-- The wording of the answer. -/
def StopAnswer.message : StopAnswer → String
  | stopped => "stopped"
  | notRunning => "not running"

/-- The records of one fetch and what is left after it. -/
structure Fetch where
  records : List Record
  pending : Nat
  offset : Option Int
  deriving DecidableEq, Repr

/-- The fields of the fetched records; a record without fields leaves the fetch without an answer,
and the records are out of the queue all the same. -/
def Fetch.fieldLists (fetch : Fetch) : Except NoAddress (List FieldList) :=
  fetch.records.mapM Record.fieldList

/-- The answer that a fetch is. -/
def Fetch.answer (fetch : Fetch) : Except NoAddress AnswerValue := do
  let records ← fetch.fieldLists
  return .members [
    ("records", .list (records.map .fields)),
    ("count", .number records.length),
    ("pending", .number fetch.pending),
    -- Before the first start there is no cursor that could have an offset.
    ("offset", match fetch.offset with
      | some offset => .number offset
      | none => .field .absent)]

namespace Collector

/-- The name of the capability. -/
def name : String := "file_tail"

/-- The component that log records of a collector name. -/
def component : String := "unified2_mcp.capabilities.file_tail"

/-- The seconds that a collector waits at the end of its file if it was asked for no others. -/
def defaultInterval : Binary64 := .finite false Binary64.unitsPerOne

/-- The most records that one turn brings if no other number was asked for. -/
def defaultBatch : Int := 500

/-- A collector that was never started. -/
def new (interval : Binary64) (capacity : Option Int) (batch : Int) :
    Except QueueError Collector := do
  return { interval, batch, queue := ← DropQueue.ofCapacity capacity }

/-- A collector that was asked for nothing in particular. -/
def plain : Collector where
  interval := defaultInterval
  batch := defaultBatch
  queue := { capacity := some DropQueue.defaultCapacity.toNat }

/-- Takes over the settings of a host; the queue is a new one. -/
def configure (collector : Collector) (settings : Settings) : Except QueueError Collector := do
  -- The settings accept every size above zero, and a queue does not.
  let queue ← DropQueue.ofCapacity (some settings.queueSize)
  return { collector with
    interval := settings.pollInterval, batch := settings.readLimit, queue }

/-- Starts a collection; its first turn comes later. -/
def start (collector : Collector) (store : FileStore) (path : String) (offset : Int) :
    Except FileError (StartAnswer × Collector × List LogRecord) := do
  -- Whether a collection runs is asked first, so a second start does not look for its file.
  if collector.running then return (.alreadyRunning, collector, [])
  -- The file is opened by the first turn, which may find that it is gone.
  else if !(← store.isFile (FilePath.normalize path)) then
    return (.noSuchFile path, collector, [])
  else
    return (.started path offset,
      { collector with
        tail := some (Tail.new path offset true), lastError := none, task := .ready 0,
        running := true },
      [{ component, level := .info, message := s!"tailing {path} from offset {offset}" }])

/-- Ends the work and closes the file. -/
def finish (collector : Collector) : Collector :=
  -- The counts and the queue stay, so they can be asked for and fetched afterwards.
  { collector with tail := collector.tail.map Tail.close, task := .ended, running := false }

/-- Goes on with a stop once the work that it waited for has ended: the flag, which the work has
cleared, is cleared a second time. -/
def resumeStop (collector : Collector) : Collector × List LogRecord :=
  let collector := { collector with running := false }
  let offset := (collector.tail.map Tail.offset).getD 0
  (collector, [{ component, level := .info, message := s!"stopped tailing at offset {offset}" }])

/-- Stops the collection, if nothing else is done until the call has its answer: the work finds at
its next turn that it shall end, and does so without another poll. -/
def stop (collector : Collector) : StopAnswer × Collector × List LogRecord :=
  if !collector.running then (.notRunning, collector, [])
  else
    let (collector, log) := collector.finish.resumeStop
    (.stopped, collector, log)

/-- What a collector waits for at the end of its file. -/
def pause (interval : Binary64) (now : Instant) : CollectorTask :=
  -- What is waited for is the wish to stop, and the interval is how long.
  -- An interval that is over at once still costs some ticks.
  if interval.isNotPositive then .ready 2
  else
    let deadline : Instant := now.add interval
    if deadline.isDue now then .ready 4 else .parked deadline

/-- Waits for the next interval to end. -/
def park (collector : Collector) (now : Instant) : Collector :=
  { collector with task := pause collector.interval now }

/-- Puts polled records into the queue; after a full batch the next turn comes at once. -/
def ingest (collector : Collector) (now : Instant) (records : List Record) : Collector :=
  let collector := { collector with
    queue := collector.queue.putMany records, ingested := collector.ingested + records.length }
  -- Less than a full batch means that the end of the file was reached.
  if !records.isEmpty && collector.batch ≤ (records.length : Int) then
    { collector with task := .ready 0 }
  else collector.park now

/-- Ends the collection because of the file; a failure that the system numbers is remembered and
told the log. -/
def fail (collector : Collector) (tail : Tail) (error : FileError) :
    Collector × List LogRecord :=
  -- An offset that no file can have is no failure of the system, and leaves no trace.
  if error.fault?.isSome then
    ({ collector.finish with lastError := some error.message },
      [{ component, level := .error
         message := s!"tail of {tail.path} failed: " ++ error.message }])
  else (collector.finish, [])

/-- One turn: a poll of one batch. -/
def turn (collector : Collector) (store : FileStore) (now : Instant) :
    Collector × List LogRecord :=
  match collector.tail with
  -- Without a cursor the work ends before it has anything to clear or to close.
  | none => ({ collector with task := .ended }, [])
  | some tail =>
    let poll := tail.poll store (some collector.batch)
    -- Whatever the poll answers, its cursor is the one to go on with.
    let collector := { collector with tail := some poll.tail }
    match poll.answer with
    | .ok records => (collector.ingest now records, poll.log)
    | .error (.file error) =>
      let (collector, log) := collector.fail poll.tail error
      (collector, poll.log ++ log)
    | .error (.corrupt _) => (collector.finish, poll.log)

/-- Takes a turn if the collector is ready for one. -/
def tick (collector : Collector) (store : FileStore) (now : Instant) :
    Collector × List LogRecord :=
  match collector.task with
  | .ready 0 => collector.turn store now
  -- The work has its turn coming, but something else comes before it.
  | .ready (ticks + 1) => ({ collector with task := .ready ticks }, [])
  | _ => (collector, [])

/-- Takes turns until the collector is no longer ready, at most so many. -/
def settleWithin (store : FileStore) (now : Instant) :
    (turns : Nat) → Collector → Collector × List LogRecord
  | 0, collector => (collector, [])
  | turns + 1, collector =>
    if collector.task = .ready 0 then
      let (collector, log) := collector.turn store now
      let (collector, more) := settleWithin store now turns collector
      (collector, log ++ more)
    else (collector, [])

/-- Takes turns until the collector waits or has ended; a turn after which it does neither passes
a frame at least, so one turn more than there are bytes is enough. -/
def settle (collector : Collector) (store : FileStore) (now : Instant) :
    Collector × List LogRecord :=
  let unread := (collector.tail.map fun tail => tail.unread store).getD 0
  -- The last turn is the one that finds nothing more.
  settleWithin store now (unread + 1) collector

/-- Makes a collector ready whose deadline has come. -/
def wake (collector : Collector) (now : Instant) : Collector :=
  match collector.task with
  | .parked deadline =>
    -- The new deadline counts from the turn that is taken now, not from the old one.
    if deadline.isDue now then { collector with task := .ready 0 } else collector
  | _ => collector

/-- Lets the time that has come take effect. -/
def reach (collector : Collector) (store : FileStore) (now : Instant) :
    Collector × List LogRecord :=
  (collector.wake now).settle store now

/-- Takes records out of the queue. -/
def fetch (collector : Collector) (limit : Option Int) : Fetch × Collector :=
  let (records, queue) := collector.queue.drain limit
  let collector := { collector with queue }
  -- The offset is that of the cursor, which may be far ahead of the records fetched.
  ({ records, pending := queue.size, offset := collector.tail.map Tail.offset }, collector)

/-- What a collector tells about itself, and about its cursor once there was a start. -/
def status (collector : Collector) : FieldList := [
  ("name", .text name),
  ("running", .flag collector.running),
  ("ingested", .number collector.ingested),
  ("pending", .number collector.queue.size),
  ("dropped", .number collector.queue.dropped),
  ("last_error", .ofText collector.lastError)] ++ (collector.tail.map Tail.stats).getD []

end Collector

end Unified2
