import Unified2.Collector

/-! A collector whose calls may overlap: a stop waits until the work that it ends has taken its last
turn, and whatever is called meanwhile is served. -/

namespace Unified2

/-- Whether a failure of a poll is caught by the work, which then ends as if it were asked to. -/
def PollError.isCaught : PollError → Bool
  | .file error => error.fault?.isSome
  | .corrupt _ => false

/-- The failure of a poll that the work does not catch. -/
def Poll.uncaught? (poll : Poll) : Option PollError :=
  match poll.answer with
  | .ok _ => none
  | .error error => if error.isCaught then none else some error

/-- What one start brings about: a cursor, and work in the background. -/
structure Collection where
  tail : Tail
  /-- What the work waits for. -/
  task : CollectorTask := .ready 0
  /-- The collection whose cursor the work moves, once it has begun. -/
  moves : Option Nat := none
  /-- Why the work ended, if that was a failure which it did not catch. -/
  failure : Option PollError := none
  deriving DecidableEq, Repr

/-- Makes the work ready again that waits for the next interval. -/
def Collection.rouse (collection : Collection) : Collection :=
  match collection.task with
  -- The wish to stop reaches the work through two others that wait for it on its behalf.
  | .parked _ => { collection with task := .ready 2 }
  | _ => collection

/-- A collector with all collections that were started, and the stops that wait. -/
structure ConcurrentCollector where
  interval : Binary64
  /-- The most records that one turn brings. -/
  batch : Int
  queue : DropQueue
  running : Bool := false
  /-- Whether work shall end at its next turn. -/
  stopping : Bool := false
  /-- How many records were put into the queue. -/
  ingested : Nat := 0
  /-- The failure of the file that ended the last collection. -/
  lastError : Option String := none
  /-- The collections in the order of their starts. -/
  collections : List Collection := []
  /-- The calls of stop that have no answer yet, with the collection whose work each waits for. -/
  stops : List Nat := []
  deriving DecidableEq, Repr

/-- How a call of stop goes on: it has its answer, or it waits for work to end. -/
inductive StopRequest
  | answered (answer : StopAnswer)
  | waits
  deriving DecidableEq, Repr

namespace ConcurrentCollector

/-- A collector that was never started. -/
def new (interval : Binary64) (capacity : Option Int) (batch : Int) :
    Except QueueError ConcurrentCollector := do
  return { interval, batch, queue := ← DropQueue.ofCapacity capacity }

/-- The number of the latest collection. -/
def latestIndex (collector : ConcurrentCollector) : Nat := collector.collections.length - 1

/-- The collection that was started last. -/
def latest? (collector : ConcurrentCollector) : Option Collection :=
  collector.collections[collector.latestIndex]?

/-- The collector as it looks to whoever has this cursor and waits for this. -/
def seenWith (collector : ConcurrentCollector) (tail : Option Tail) (task : CollectorTask) :
    Collector where
  interval := collector.interval
  batch := collector.batch
  queue := collector.queue
  tail
  running := collector.running
  task
  ingested := collector.ingested
  lastError := collector.lastError

/-- The collector as its status and its fetches show it: with the latest collection alone. -/
def view (collector : ConcurrentCollector) : Collector :=
  -- Work of an earlier collection does not show, even if it still goes on.
  collector.seenWith (collector.latest?.map Collection.tail)
    ((collector.latest?.map Collection.task).getD .ended)

/-- Takes over what all collections share. -/
def share (collector : ConcurrentCollector) (changed : Collector) : ConcurrentCollector :=
  { collector with
    queue := changed.queue, running := changed.running, ingested := changed.ingested
    lastError := changed.lastError }

/-- Starts a collection. Whether one runs is all that is asked, not whether a stop still waits. -/
def start (collector : ConcurrentCollector) (store : FileStore) (path : String) (offset : Int) :
    Except FileError (StartAnswer × ConcurrentCollector × List LogRecord) := do
  let (answer, started, log) ← collector.view.start store path offset
  match answer with
  | .started path offset =>
    -- The wish to stop is taken back, also from work that has not heard of it yet.
    return (answer,
      { collector.share started with
        stopping := false
        collections := collector.collections ++ [{ tail := Tail.new path offset true }] },
      log)
  | refused => return (refused, collector, log)

/-- Asks the work to end; the call has its answer only once the latest work has. -/
def requestStop (collector : ConcurrentCollector) : StopRequest × ConcurrentCollector :=
  if !collector.running then (.answered .notRunning, collector)
  else
    (.waits,
      { collector with
        -- Work that is about to poll asks for this by itself; work that waits has to be told.
        stopping := true
        collections := collector.collections.map Collection.rouse
        stops := collector.stops ++ [collector.latestIndex] })

/-- Goes on with a stop that waits, if the work has ended: the call fails as the work failed, or it
clears the flag, whatever was started meanwhile. -/
def resumeStop (collector : ConcurrentCollector) (call : Nat) :
    Option (Except PollError StopAnswer × ConcurrentCollector × List LogRecord) := do
  let collection ← collector.collections[← collector.stops[call]?]?
  -- Only the work that ran when it was called is waited for, not what was started later.
  if collection.task ≠ .ended then none
  else
    let collector := { collector with stops := collector.stops.eraseIdx call }
    match collection.failure with
    -- The failure is raised where the call waits, before it comes to the flag.
    | some error => return (.error error, collector, [])
    | none =>
      let (cleared, log) := collector.view.resumeStop
      return (.ok .stopped, collector.share cleared, log)

/-- The number of the collection whose cursor the work of a collection moves: work that has not
begun takes the latest one when it does. -/
def cursorOf (collector : ConcurrentCollector) (collection : Collection) : Nat :=
  collection.moves.getD collector.latestIndex

/-- The collector as it looks to the work of a collection. -/
def seenBy (collector : ConcurrentCollector) (collection : Collection) : Collector :=
  collector.seenWith (collector.collections[collector.cursorOf collection]?.map Collection.tail)
    collection.task

/-- The poll that the work of a collection makes at its turn, unless it shall end. -/
def pollOf? (collector : ConcurrentCollector) (collection : Collection) (store : FileStore) :
    Option Poll :=
  -- Asking to stop between two polls is always in time.
  if collector.stopping then none
  else (collector.seenBy collection).tail.map fun tail => tail.poll store (some collector.batch)

/-- The collector after the work of a collection had its turn and left it like this, with the
cursor that it moves and the failure that it did not catch. -/
def moved (collector : ConcurrentCollector) (index cursor : Nat) (changed : Collector)
    (failure : Option PollError) : ConcurrentCollector :=
  -- The cursor may be that of another collection, so it is put back on its own.
  let collections := collector.collections.modify cursor fun collection =>
    { collection with tail := changed.tail.getD collection.tail }
  { collector.share changed with
    collections := collections.modify index fun collection =>
      { collection with task := changed.task, moves := some cursor, failure } }

/-- Takes a turn of the work of a collection. -/
def turn (collector : ConcurrentCollector) (index : Nat) (collection : Collection)
    (store : FileStore) (now : Instant) : ConcurrentCollector × List LogRecord :=
  let seen := collector.seenBy collection
  -- Whether to stop is asked before each poll, and never during one.
  let (changed, log) := if collector.stopping then (seen.finish, []) else seen.turn store now
  let failure := (collector.pollOf? collection store).bind Poll.uncaught?
  (collector.moved index (collector.cursorOf collection) changed failure, log)

/-- Changes what the work of a collection waits for. -/
def wait (collector : ConcurrentCollector) (index : Nat) (task : CollectorTask) :
    ConcurrentCollector :=
  { collector with
    collections := collector.collections.modify index fun collection => { collection with task } }

/-- Goes on with the work of a collection, if it can. -/
def advance (collector : ConcurrentCollector) (index : Nat) (store : FileStore) (now : Instant) :
    ConcurrentCollector × List LogRecord :=
  match collector.collections[index]? with
  | none => (collector, [])
  | some collection =>
    match collection.task with
    | .ended => (collector, [])
    | .ready 0 => collector.turn index collection store now
    -- What it waits for has happened, but others have to take note of that first.
    | .ready (ticks + 1) => (collector.wait index (.ready ticks), [])
    | .parked deadline =>
      -- A deadline that has come makes the work ready, and it polls at its next turn.
      if deadline.isDue now then (collector.wait index (.ready 0), []) else (collector, [])

/-- Takes records out of the queue. -/
def fetch (collector : ConcurrentCollector) (limit : Option Int) : Fetch × ConcurrentCollector :=
  let (fetch, changed) := collector.view.fetch limit
  (fetch, collector.share changed)

/-- What the collector tells about itself, and about the cursor of the latest collection. -/
def status (collector : ConcurrentCollector) : FieldList := collector.view.status

end ConcurrentCollector

end Unified2
