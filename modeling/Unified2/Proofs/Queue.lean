import Mathlib.Data.List.Induction
import Unified2.Queue

/-! A queue keeps the last records that fit, in order, and counts the others. -/

namespace Unified2

namespace DropQueue

/-- A queue is made of every capacity that fits a size. -/
theorem ofCapacity_natCast {capacity : Nat} (fits : (capacity : Int) < capacityLimit) :
    ofCapacity (some (capacity : Int)) = .ok { capacity := some capacity } := by
  have room : ¬ ((capacity : Int) < -capacityLimit ∨ capacityLimit ≤ (capacity : Int)) := by
    unfold capacityLimit at *
    omega
  simp [ofCapacity, room]

/-- No queue is made of a capacity that is too wide for a size. -/
theorem ofCapacity_of_le {capacity : Nat} (wide : capacityLimit ≤ capacity) :
    ofCapacity (some (capacity : Int)) = .error .capacityTooWide := by
  -- It is refused for its width, before its sign is looked at.
  have beyond : (capacity : Int) < -capacityLimit ∨ capacityLimit ≤ (capacity : Int) := .inr wide
  rw [ofCapacity, if_pos beyond]

/-- No more records wait than can. -/
def Fits (queue : DropQueue) : Prop := ∀ most, queue.capacity = some most → queue.size ≤ most

/-- How many of so many records a queue of a capacity has no place for. -/
def surplus (capacity : Option Nat) (count : Nat) : Nat :=
  match capacity with
  | none => 0
  | some most => count - most

/-- Without a surplus nothing is too much. -/
theorem surplus_le (capacity : Option Nat) (count : Nat) : surplus capacity count ≤ count := by
  cases capacity with
  | none => exact Nat.zero_le _
  | some most => exact Nat.sub_le ..

/-- What was dropped before need not be dropped again. -/
theorem surplus_add {capacity : Option Nat} {count dropped : Nat}
    (due : dropped ≤ surplus capacity count) (more : Nat) :
    dropped + surplus capacity (count - dropped + more) = surplus capacity (count + more) := by
  -- Without a capacity nothing is due, and with one the difference is the same.
  have within := surplus_le capacity count
  cases capacity with
  | none =>
    simp only [surplus] at due ⊢
    omega
  | some most =>
    simp only [surplus] at due within ⊢
    omega

/-- A queue that fits has no surplus. -/
theorem Fits.surplus_eq {queue : DropQueue} (fits : queue.Fits) :
    surplus queue.capacity queue.size = 0 := by
  unfold surplus
  cases limited : queue.capacity with
  | none => rfl
  | some most => exact Nat.sub_eq_zero_of_le (fits most limited)

/-- One more record takes the place of the oldest one if there is none for it. -/
theorem Fits.put_eq {queue : DropQueue} (fits : queue.Fits) (record : Record) :
    queue.put record = { queue with
      records := (queue.records ++ [record]).drop (surplus queue.capacity (queue.size + 1))
      dropped := queue.dropped + surplus queue.capacity (queue.size + 1) } := by
  unfold put surplus
  cases limited : queue.capacity with
  | none => simp
  | some most =>
    have within := fits most limited
    by_cases full : queue.size = most
    · -- A full queue has no place for one more.
      simp [full]
    · have none : queue.size + 1 - most = 0 := by omega
      simp [full, none]

/-- Without its surplus whatever there is fits. -/
theorem fits_drop (capacity : Option Nat) (records : List Record) (dropped : Nat) :
    Fits ⟨capacity, records.drop (surplus capacity records.length), dropped⟩ := by
  intro most limited
  -- Either there is no surplus, or as many are left as have a place.
  have same : capacity = some most := limited
  simp only [size, List.length_drop, same, surplus]
  omega

/-- Records come behind those that wait, and push out the oldest ones that have no place. -/
theorem Fits.putMany_eq {queue : DropQueue} (fits : queue.Fits) (records : List Record) :
    queue.putMany records = { queue with
      records := (queue.records ++ records).drop
        (surplus queue.capacity (queue.size + records.length))
      dropped := queue.dropped + surplus queue.capacity (queue.size + records.length) } := by
  -- The records are put one after the other, and what the earlier ones pushed out is gone.
  induction records using List.reverseRecOn with
  | nil => simp [putMany, fits.surplus_eq]
  | append_singleton records record ih =>
    have whole : queue.size + records.length = (queue.records ++ records).length :=
      List.length_append.symm
    have step : queue.putMany (records ++ [record]) = (queue.putMany records).put record :=
      List.foldl_append
    generalize gone : surplus queue.capacity (queue.size + records.length) = earlier at ih
    have due : earlier ≤ (queue.records ++ records).length := whole ▸ gone ▸ surplus_le ..
    have fitsBefore : Fits ⟨queue.capacity, (queue.records ++ records).drop earlier,
        queue.dropped + earlier⟩ := by
      rw [← gone, whole]
      exact fits_drop _ _ _
    -- Nothing of the record at the end was among what is gone.
    have joined : (queue.records ++ records).drop earlier ++ [record] =
        (queue.records ++ (records ++ [record])).drop earlier := by
      rw [← List.append_assoc, List.drop_append_of_le_length due]
    have left : size ⟨queue.capacity, (queue.records ++ records).drop earlier,
        queue.dropped + earlier⟩ = queue.size + records.length - earlier := by
      rw [size, List.length_drop, whole]
    have total := surplus_add (Nat.le_of_eq gone.symm) 1
    rw [step, ih, fitsBefore.put_eq]
    simp only [left, joined, List.drop_drop, total, Nat.add_assoc, List.length_append,
      List.length_singleton]

/-- A new queue keeps the last records that fit and drops the others. -/
theorem putMany_empty (capacity : Nat) (records : List Record) :
    let lost := records.length - min capacity records.length
    putMany { capacity := some capacity } records =
      { capacity := some capacity, records := records.drop lost, dropped := lost } := by
  -- Nothing waits at first, so what is put is all there is.
  intro lost
  have fits : Fits { capacity := some capacity } := fun _ _ => Nat.zero_le _
  have same : surplus (some capacity) records.length = lost := by
    simp only [surplus, lost]
    omega
  rw [fits.putMany_eq]
  simp only [size, List.length_nil, List.nil_append, Nat.zero_add, same]

/-- A queue fits whatever was put. -/
theorem Fits.putMany {queue : DropQueue} (fits : queue.Fits) (records : List Record) :
    (queue.putMany records).Fits := by
  have whole : queue.size + records.length = (queue.records ++ records).length :=
    List.length_append.symm
  rw [fits.putMany_eq, whole]
  exact fits_drop _ _ _

/-- Records that are put come behind those that wait, as far as they are not dropped. -/
theorem Fits.putMany_sublist {queue : DropQueue} (fits : queue.Fits) (records : List Record) :
    (queue.putMany records).records.Sublist (queue.records ++ records) := by
  rw [fits.putMany_eq]
  exact List.drop_sublist ..

/-- Every record that is put waits or makes one more dropped. -/
theorem Fits.size_putMany {queue : DropQueue} (fits : queue.Fits) (records : List Record) :
    (queue.putMany records).size + (queue.putMany records).dropped =
      queue.size + queue.dropped + records.length := by
  -- No more are dropped than there are, so none is counted twice.
  have within := surplus_le queue.capacity (queue.size + records.length)
  rw [fits.putMany_eq]
  simp only [size, List.length_drop, List.length_append] at within ⊢
  omega

/-- The capacity stays as it was made. -/
theorem Fits.capacity_putMany {queue : DropQueue} (fits : queue.Fits) (records : List Record) :
    (queue.putMany records).capacity = queue.capacity := by
  rw [fits.putMany_eq]

/-- What is drained and what is left are all that waited. -/
theorem drain_append (queue : DropQueue) (limit : Option Int) :
    (queue.drain limit).1 ++ (queue.drain limit).2.records = queue.records :=
  List.take_append_drop ..

/-- As many leave a queue as no longer wait. -/
theorem size_drain (queue : DropQueue) (limit : Option Int) :
    (queue.drain limit).1.length + (queue.drain limit).2.size = queue.size := by
  have lengths := congrArg List.length (queue.drain_append limit)
  rw [List.length_append] at lengths
  exact lengths

/-- Records that are put stay behind those taken out and those that wait. -/
theorem Fits.sublist_putMany {queue : DropQueue} (fits : queue.Fits) {taken put : List Record}
    (ordered : (taken ++ queue.records).Sublist put) (records : List Record) :
    (taken ++ (queue.putMany records).records).Sublist (put ++ records) := by
  -- What still waits is among what waited and the records, in their order.
  have waits := (List.Sublist.refl taken).append (fits.putMany_sublist records)
  rw [← List.append_assoc] at waits
  exact waits.trans (ordered.append (List.Sublist.refl records))

/-- A drain moves the seam between the records taken out and those that wait, and nothing else. -/
theorem sublist_drain {queue : DropQueue} {taken put : List Record}
    (ordered : (taken ++ queue.records).Sublist put) (limit : Option Int) :
    (taken ++ (queue.drain limit).1 ++ (queue.drain limit).2.records).Sublist put := by
  rw [List.append_assoc, drain_append]
  exact ordered

/-- Less waits after a drain. -/
theorem Fits.drain {queue : DropQueue} (fits : queue.Fits) (limit : Option Int) :
    (queue.drain limit).2.Fits := by
  intro most limited
  have before := fits most limited
  unfold size DropQueue.drain at *
  rw [List.length_drop]
  omega

/-- Records that are put in two parts are put. -/
theorem putMany_append (queue : DropQueue) (records more : List Record) :
    queue.putMany (records ++ more) = (queue.putMany records).putMany more :=
  List.foldl_append

end DropQueue

end Unified2
