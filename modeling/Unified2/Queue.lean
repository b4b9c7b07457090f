import Unified2.Record.Basic

/-! A first-in first-out queue that drops its oldest records when it is full. -/

namespace Unified2

/-- Why there is no queue of a capacity. -/
inductive QueueError
  | negativeCapacity
  /-- The capacity does not fit the signed 64 bits of a size. -/
  | capacityTooWide
  deriving DecidableEq, Repr

/-- The wording of the error. -/
def QueueError.message : QueueError → String
  | negativeCapacity => "maxlen must be non-negative"
  | capacityTooWide => "Python int too large to convert to C ssize_t"

/-- The records that wait, oldest first, and how many were dropped. -/
structure DropQueue where
  /-- The most records that can wait, if there is a limit. -/
  capacity : Option Nat
  records : List Record := []
  dropped : Nat := 0
  deriving DecidableEq, Repr

namespace DropQueue

/-- The capacity of a queue that was asked for no other. -/
def defaultCapacity : Int := 10000

/-- The capacities that are too wide for a queue, as a distance from zero. -/
def capacityLimit : Int := 9223372036854775808

/-- An empty queue of a capacity. -/
def ofCapacity : Option Int → Except QueueError DropQueue
  | none => .ok { capacity := none }
  | some capacity =>
    -- The width is looked at before the sign, as the number has to be a size first.
    if capacity < -capacityLimit ∨ capacityLimit ≤ capacity then .error .capacityTooWide
    else if capacity < 0 then .error .negativeCapacity
    else .ok { capacity := some capacity.toNat }

/-- How many records wait. -/
def size (queue : DropQueue) : Nat := queue.records.length

/-- Adds a record; in a full queue it takes the place of the oldest one. -/
def put (queue : DropQueue) (record : Record) : DropQueue :=
  let records := queue.records ++ [record]
  -- Where nothing can wait, the new record is itself the oldest one.
  if some queue.size = queue.capacity then
    { queue with records := records.drop 1, dropped := queue.dropped + 1 }
  else { queue with records }

/-- Adds records one after the other. -/
def putMany (queue : DropQueue) (records : List Record) : DropQueue := records.foldl put queue

/-- How many records a limit lets through; without one, all of them. -/
def allowance (queue : DropQueue) : Option Int → Nat
  | none => queue.size
  -- A limit of zero or less lets nothing through.
  | some limit => min limit.toNat queue.size

/-- Takes out the oldest records, as many as the limit lets through. -/
def drain (queue : DropQueue) (limit : Option Int) : List Record × DropQueue :=
  let count := queue.allowance limit
  (queue.records.take count, { queue with records := queue.records.drop count })

end DropQueue

end Unified2
