import Unified2.Proofs.Collecting.Step
import Unified2.Proofs.Status

/-! A collector that does not run rests until the next start: nothing that it tells about itself
changes, but how many records wait to be fetched. -/

namespace Unified2

namespace Collecting

/-- No collection runs, and nothing that one moves has moved: neither the cursor with its counts nor
the number of records. -/
structure Rests (collecting later : Collecting) : Prop where
  idle : later.collector.running = false
  tail_eq : later.collector.tail = collecting.collector.tail
  ingested_eq : later.collector.ingested = collecting.collector.ingested
  dropped_eq : later.collector.queue.dropped = collecting.collector.queue.dropped
  lastError_eq : later.collector.lastError = collecting.collector.lastError
  /-- There was no other poll. -/
  allPolls_eq : later.allPolls = collecting.allPolls

/-- The collector rests as long as there is no other start. -/
structure RestsUntilStart (collecting later : Collecting) : Prop where
  starts_le : collecting.starts ≤ later.starts
  rests : later.starts = collecting.starts → collecting.Rests later

variable {collecting later next : Collecting}

/-- Only a start ends the rest. -/
theorem RestsUntilStart.of_effect (resting : collecting.RestsUntilStart later)
    (effect : Effect later next) : collecting.RestsUntilStart next := by
  -- Whatever moves a cursor or a count happens to a collection that runs.
  have earlier := resting.starts_le
  cases effect with
  | still files now same =>
    refine ⟨earlier, ?_⟩
    intro noStart
    have rests := resting.rests noStart
    exact ⟨rests.idle, rests.tail_eq, rests.ingested_eq, rests.dropped_eq, rests.lastError_eq,
      rests.allPolls_eq⟩
  | @started idle path there offset =>
    have more : (later.after (later.collector.started path offset)
        [.started path offset]).starts = later.starts + 1 := by simp [Happening.isStart]
    refine ⟨by omega, ?_⟩
    intro same
    omega
  | fetched limit =>
    refine ⟨by simpa using Nat.le_add_right_of_le earlier, ?_⟩
    intro noStart
    have rests := resting.rests (by simpa [Happening.isStart] using noStart)
    -- What is fetched waits no longer, and nothing else changes.
    refine ⟨rests.idle, rests.tail_eq, rests.ingested_eq, rests.dropped_eq, rests.lastError_eq, ?_⟩
    simpa [Happening.poll?] using rests.allPolls_eq
  | stopped running | gained running | failed running =>
    refine ⟨by simpa using Nat.le_add_right_of_le earlier, ?_⟩
    intro noStart
    have rests := resting.rests (by simpa [Happening.isStart] using noStart)
    simp [rests.idle] at running

/-- A collector that does not run rests until the next start. -/
theorem Effects.rests (effects : Effects collecting later)
    (idle : collecting.collector.running = false) (noStart : later.starts = collecting.starts) :
    collecting.Rests later := by
  -- It rests now, and nothing but a start ends that.
  have atRest : collecting.RestsUntilStart collecting :=
    ⟨Nat.le_refl _, fun _ => ⟨idle, rfl, rfl, rfl, rfl, rfl⟩⟩
  have resting : collecting.RestsUntilStart later :=
    effects.invariant atRest fun effect kept => RestsUntilStart.of_effect kept effect
  exact resting.rests noStart

/-- A collector that rests tells the same as before of everything but how many records wait. -/
theorem Rests.lookup_status (rests : collecting.Rests later)
    (idle : collecting.collector.running = false) {figure : String}
    (notPending : figure ≠ "pending") :
    later.collector.status.lookup figure = collecting.collector.status.lookup figure :=
  Collector.lookup_status_eq rests.ingested_eq rests.dropped_eq rests.lastError_eq
    (congrArg _ rests.tail_eq) (fun _ => rests.idle.trans idle.symm) notPending

end Collecting

end Unified2
