import Unified2.Proofs.Queue

/-! However a queue is used, records come out in the order that they were put in, and those that
are lost are the oldest ones at the time, each of them counted. -/

namespace Unified2

namespace DropQueue

/-- What is done with a queue. -/
inductive Use
  | put (records : List Record)
  | drain (limit : Option Int)

/-- A queue with everything that was put into it and everything that was drained from it. -/
structure History where
  queue : DropQueue
  put : List Record := []
  drained : List Record := []

namespace History

/-- The history after one more use. -/
def after (history : History) : Use → History
  | .put records =>
    { history with queue := history.queue.putMany records, put := history.put ++ records }
  | .drain limit =>
    let (records, queue) := history.queue.drain limit
    { history with queue, drained := history.drained ++ records }

/-- The history after uses one after the other. -/
def run (history : History) (uses : List Use) : History := uses.foldl after history

/-- What is drained and what waits are what was put, without the records that had no place. -/
structure Orderly (history : History) (capacity : Option Nat) : Prop where
  capacity_eq : history.queue.capacity = capacity
  fits : history.queue.Fits
  balanced : history.put.length =
    history.drained.length + history.queue.dropped + history.queue.size
  /-- Only the records put last still wait. -/
  waiting_last : history.queue.records <:+ history.put
  /-- Nothing changes its place, and nothing comes twice. -/
  ordered : (history.drained ++ history.queue.records).Sublist history.put
  unbounded : capacity = none → history.queue.dropped = 0

variable {history : History} {capacity : Option Nat}

/-- Records that are put go behind all others, and what they push out is dropped. -/
theorem Orderly.put (orderly : history.Orderly capacity) (records : List Record) :
    (history.after (.put records)).Orderly capacity := by
  have fits := orderly.fits
  refine ⟨(fits.capacity_putMany records).trans orderly.capacity_eq, fits.putMany records,
    ?_, ?_, ?_, ?_⟩
  · -- Every one of the records waits, or makes one more dropped.
    have total := fits.size_putMany records
    have before := orderly.balanced
    simp only [after, List.length_append]
    omega
  · -- What waits is an end of what waited and the records, and that is an end of what was put.
    simp only [after]
    rw [fits.putMany_eq]
    obtain ⟨older, joined⟩ := orderly.waiting_last
    refine (List.drop_suffix ..).trans ⟨older, ?_⟩
    rw [← joined, List.append_assoc]
  · exact fits.sublist_putMany orderly.ordered records
  · -- Without a capacity nothing is ever too much.
    intro unlimited
    have none := orderly.unbounded unlimited
    simp only [after]
    rw [fits.putMany_eq, orderly.capacity_eq, unlimited]
    simpa [surplus] using none

/-- Records that are drained leave the front, and the others stay. -/
theorem Orderly.drain (orderly : history.Orderly capacity) (limit : Option Int) :
    (history.after (.drain limit)).Orderly capacity := by
  refine ⟨orderly.capacity_eq, orderly.fits.drain limit, ?_, ?_,
    sublist_drain orderly.ordered limit, orderly.unbounded⟩
  · -- What is no longer waiting is among what was drained.
    have moved := history.queue.size_drain limit
    have before := orderly.balanced
    have dropped : (history.queue.drain limit).2.dropped = history.queue.dropped := rfl
    simp only [after, List.length_append]
    omega
  · -- An end of the records that waited is an end of those that were put.
    exact (List.drop_suffix ..).trans orderly.waiting_last

/-- However long it is used, a queue keeps its order. -/
theorem Orderly.run (orderly : history.Orderly capacity) (uses : List Use) :
    (history.run uses).Orderly capacity := by
  -- Each use keeps it, whichever of the two it is.
  induction uses generalizing history with
  | nil => exact orderly
  | cons use uses ih =>
    cases use with
    | put records => exact ih (orderly.put records)
    | drain limit => exact ih (orderly.drain limit)

/-- If nothing was dropped, nothing is missing. -/
theorem Orderly.complete (orderly : history.Orderly capacity)
    (kept : capacity = none ∨ history.queue.dropped = 0) :
    history.drained ++ history.queue.records = history.put := by
  have none : history.queue.dropped = 0 := kept.elim orderly.unbounded id
  -- A part that is as long as the whole is all of it.
  have balanced := orderly.balanced
  apply orderly.ordered.eq_of_length
  rw [List.length_append, balanced, size]
  omega

/-- Before it is used, a queue is empty. -/
theorem orderly_new (capacity : Option Nat) :
    Orderly { queue := { capacity } } capacity :=
  ⟨rfl, fun _ _ => Nat.zero_le _, rfl, List.suffix_refl _, List.Sublist.refl _, fun _ => rfl⟩

end History

/-- A queue that was made is empty and has the capacity that was asked for, and only a capacity that
is no size makes none. -/
theorem ofCapacity_cases (asked : Option Int) :
    match ofCapacity asked with
    | .ok queue => queue = { capacity := asked.map Int.toNat } ∧
        ∀ most, asked = some most → 0 ≤ most
    | .error _ => ∃ most, asked = some most ∧ (most < 0 ∨ capacityLimit ≤ most) := by
  cases asked with
  | none => exact ⟨rfl, by simp⟩
  | some most =>
    -- A number is refused for its width before its sign is looked at.
    by_cases wide : most < -capacityLimit ∨ capacityLimit ≤ most
    · simp only [ofCapacity, if_pos wide]
      refine ⟨most, rfl, wide.imp_left fun far => ?_⟩
      unfold capacityLimit at far
      omega
    · by_cases negative : most < 0
      · simp only [ofCapacity, if_neg wide, if_pos negative]
        exact ⟨most, rfl, .inl negative⟩
      · -- A number that is not below zero is the same as a capacity.
        simp only [ofCapacity, if_neg wide, if_neg negative]
        exact ⟨rfl, by simpa using Int.not_lt.mp negative⟩

/-- Draining twice gives what draining once does with both limits together. -/
theorem drain_drain (queue : DropQueue) {first second : Int} (firstLimit : 0 ≤ first)
    (secondLimit : 0 ≤ second) :
    let (records, rest) := queue.drain (some first)
    let (more, left) := rest.drain (some second)
    queue.drain (some (first + second)) = (records ++ more, left) := by
  -- Together the two limits let as many records through as one after the other.
  have together : min (first + second).toNat queue.size =
      min first.toNat queue.size + min second.toNat (queue.size - min first.toNat queue.size) := by
    omega
  simp only [drain, allowance, size, List.length_drop, List.drop_drop,
    ← List.take_add] at together ⊢
  rw [together]

/-- Of every queue that there is, however it is used: never more records wait than it has places;
every record put is drained, dropped or waiting; those waiting are the ones put last; the drained
ones and those behind them are in the order of the records put, with none of them missing if none
was dropped. Putting records in two parts is putting them, and draining twice is draining once. -/
theorem use_is_orderly (asked : Option Int) :
    match ofCapacity asked with
    | .error _ => ∃ most, asked = some most ∧ (most < 0 ∨ capacityLimit ≤ most)
    | .ok made => ∀ uses : List Use,
      let history := History.run { queue := made } uses
      let queue := history.queue
      (∀ most, asked = some most → (queue.size : Int) ≤ most) ∧
      history.put.length = history.drained.length + queue.dropped + queue.size ∧
      queue.records <:+ history.put ∧
      (history.drained ++ queue.records).Sublist history.put ∧
      (asked = none ∨ queue.dropped = 0 → history.drained ++ queue.records = history.put) ∧
      (∀ records more : List Record,
        queue.putMany (records ++ more) = (queue.putMany records).putMany more) ∧
      ∀ first second : Int, 0 ≤ first → 0 ≤ second →
        let (records, rest) := queue.drain (some first)
        let (more, left) := rest.drain (some second)
        queue.drain (some (first + second)) = (records ++ more, left) := by
  -- A queue that is made starts a history, and all but the last two parts hold along it.
  have cases := ofCapacity_cases asked
  cases made : ofCapacity asked with
  | error error =>
    rw [made] at cases
    exact cases
  | ok empty =>
    rw [made] at cases
    obtain ⟨rfl, nonnegative⟩ := cases
    intro uses history queue
    have orderly : history.Orderly (asked.map Int.toNat) := (History.orderly_new _).run uses
    refine ⟨?_, orderly.balanced, orderly.waiting_last, orderly.ordered, ?_,
      queue.putMany_append, fun _ _ => queue.drain_drain⟩
    · rintro most rfl
      -- The capacity is the number asked for, as this is not below zero.
      have within := orderly.fits most.toNat orderly.capacity_eq
      have positive := nonnegative most rfl
      show (history.queue.size : Int) ≤ most
      omega
    · intro kept
      exact orderly.complete (kept.imp_left fun unlimited => by rw [unlimited, Option.map_none])

/-- Of five records three have a place, and the first two of these are drained. -/
example :
    let history := History.run { queue := { capacity := some 3 } }
      [.put [.unknown 0, .unknown 1], .put [.unknown 2, .unknown 3, .unknown 4], .drain (some 2)]
    history.drained = [.unknown 2, .unknown 3] ∧ history.queue.records = [.unknown 4] ∧
      history.queue.dropped = 2 := by decide

end DropQueue

end Unified2
