import Unified2.Proofs.Collecting.LifeCycle
import Unified2.Proofs.Concurrent.Simulation

/-! A collector runs exactly while it has work, as long as no collection is started while a stop
waits. One that does not run rests until the next start, one that shall stop makes no other poll,
and a request that is turned down changes nothing. -/

namespace Unified2

namespace Serving

variable {serving later next : Serving}

/-- No step takes back what happened. -/
theorem Step.history_prefix (step : Step serving next) : serving.history <+: next.history := by
  cases step with
  | change | elapse => exact List.prefix_refl _
  -- These append to the history, be it nothing.
  | start | requestStop | resumeStop | advance | fetch => exact List.prefix_append ..

/-- There are never fewer starts than before. -/
theorem Step.starts_le (step : Step serving next) : serving.seen.starts ≤ next.seen.starts :=
  step.history_prefix.sublist.countP_le

/-- There are never fewer starts than before. -/
theorem Run.starts_le (run : Run serving later) : serving.seen.starts ≤ later.seen.starts := by
  induction run with
  | refl => exact Nat.le_refl _
  | tail _ step ih => exact ih.trans step.starts_le

/-- A run without a start starts nothing while a stop waits. -/
theorem Run.sequential (run : Run serving later)
    (noStart : later.seen.starts = serving.seen.starts) : SequentialRun serving later := by
  induction run with
  | refl => exact .refl
  | tail earlier step ih =>
    -- There are as many starts on the way as there are at both ends.
    have before := Run.starts_le earlier
    have behind := step.starts_le
    exact (ih (by omega)).tail ⟨step, fun more => absurd (by omega) more⟩

/-- The collector shall stop: there was no other poll since it was asked to, and what it tells is
the same as then but for the flag and for what waits. -/
structure Stopping (serving later : Serving) : Prop where
  wish : later.collector.stopping = true
  allPolls_eq : later.seen.allPolls = serving.seen.allPolls
  ingested_eq : later.collector.ingested = serving.collector.ingested
  dropped_eq : later.collector.queue.dropped = serving.collector.queue.dropped
  lastError_eq : later.collector.lastError = serving.collector.lastError
  stats_eq : later.collector.view.tail.map Tail.stats = serving.collector.view.tail.map Tail.stats
  /-- Where the work has ended, it did so without a failure. -/
  sound : ∀ collection, later.collector.latest? = some collection → collection.task = .ended →
    collection.failure = none

/-- A collector that runs and is asked to stop shall stop. -/
theorem stopping_asked (orderly : serving.seen.collector.Orderly)
    (running : serving.collector.running = true) : Stopping serving serving.asked := by
  obtain ⟨task, same, view⟩ := serving.collector.view_asked
  refine ⟨rfl, by simp [asked, after, seen, Collecting.allPolls], rfl, rfl, rfl, ?_, ?_⟩
  · rw [show serving.asked.collector.view = _ from view]
  · -- The work has not ended yet.
    intro collection latest ended
    have goesOn : serving.collector.view.task ≠ .ended := orderly.running_iff.mp running
    rw [Ne, ← same] at goesOn
    have last := ConcurrentCollector.view_of_latest
      (show serving.collector.asked.latest? = _ from latest)
    rw [view] at last
    exact absurd ((congrArg Collector.task last).trans ended) goesOn

/-- What polls nothing, tells nothing else and ends no work with a failure leaves it so. -/
theorem Stopping.unchanged (stopping : Stopping serving later) {collector : ConcurrentCollector}
    {happenings : List Happening} (noPoll : happenings.filterMap Happening.poll? = [])
    (wish : collector.stopping = true)
    (counts : collector.ingested = later.collector.ingested ∧
      collector.queue.dropped = later.collector.queue.dropped ∧
      collector.lastError = later.collector.lastError)
    (stats : collector.view.tail.map Tail.stats = later.collector.view.tail.map Tail.stats)
    (sound : ∀ collection, collector.latest? = some collection → collection.task = .ended →
      collection.failure = none) : Stopping serving (later.after collector happenings) := by
  -- Each figure is that of the state before, which is that of the request.
  obtain ⟨ingested, dropped, lastError⟩ := counts
  refine ⟨wish, ?_, ingested.trans stopping.ingested_eq, dropped.trans stopping.dropped_eq,
    lastError.trans stopping.lastError_eq, stats.trans stopping.stats_eq, sound⟩
  have polls := stopping.allPolls_eq
  simp only [Collecting.allPolls, seen, after, List.filterMap_append, noPoll, List.append_nil]
    at polls ⊢
  exact polls

/-- Work that goes on ends at its turn, and nothing else that it does shows. -/
theorem Stopping.advanced (stopping : Stopping serving later) (serial : later.collector.Serial)
    (index : Nat) : Stopping serving (later.advanced index) := by
  rcases advanced_cases serial index with same | ⟨rfl, collection, latest⟩
  · rw [same]
    exact stopping
  have found : later.collector.collections[later.collector.latestIndex]? = some collection :=
    latest
  rcases ConcurrentCollector.advance_cases found later.files later.now with
    ⟨due, -⟩ | ⟨notDue, same | ⟨task, goesOn, -, waits⟩⟩
  · -- The turn closes the file, which shows in no figure.
    have closes : later.collector.view.finish.tail = later.collector.view.tail.map Tail.close :=
      rfl
    have view := later.collector.view_of_latest latest
    rw [advanced_of_stopping serial latest stopping.wish due]
    refine stopping.unchanged rfl stopping.wish ⟨rfl, rfl, rfl⟩ ?_ ?_
    · rw [ConcurrentCollector.view_moved latest (show _ = some collection.tail.close by
        rw [closes, view]; rfl) rfl rfl, closes, view]
      rfl
    · -- Work that ends as it was told to has no failure.
      intro other last _
      rw [ConcurrentCollector.latest?_moved latest] at last
      cases last
      rfl
  all_goals
    rw [Serving.advanced, happenings_of_not_due found notDue]
  · rw [same]
    exact stopping.unchanged rfl stopping.wish ⟨rfl, rfl, rfl⟩ rfl stopping.sound
  · rw [waits]
    refine stopping.unchanged rfl stopping.wish ⟨rfl, rfl, rfl⟩ ?_ ?_
    · rw [ConcurrentCollector.view_wait latest]
    · -- Work that waits has not ended.
      intro other last ended
      rw [ConcurrentCollector.latest?_wait latest] at last
      cases last
      exact absurd ended goesOn

/-- Until the next start every step leaves it so. -/
theorem Stopping.of_step (stopping : Stopping serving later) (serial : later.collector.Serial)
    (step : Step later next) (noStart : next.seen.starts = later.seen.starts) :
    Stopping serving next := by
  cases step with
  | change | elapse =>
    exact ⟨stopping.wish, stopping.allPolls_eq, stopping.ingested_eq, stopping.dropped_eq,
      stopping.lastError_eq, stopping.stats_eq, stopping.sound⟩
  | start answered =>
    rcases ConcurrentCollector.start_cases answered with
      ⟨-, rfl, rfl, -⟩ | ⟨-, -, rfl, rfl, -⟩ | ⟨-, -, rfl, rfl⟩
    · exact stopping.unchanged rfl stopping.wish ⟨rfl, rfl, rfl⟩ rfl stopping.sound
    · exact stopping.unchanged rfl stopping.wish ⟨rfl, rfl, rfl⟩ rfl stopping.sound
    · -- A start that succeeded is one start more.
      simp [seen_after, StartAnswer.happenings, Happening.isStart] at noStart
  | requestStop requested =>
    rcases ConcurrentCollector.requestStop_cases requested with ⟨-, -, rfl⟩ | ⟨-, -, rfl⟩
    · exact stopping.unchanged rfl stopping.wish ⟨rfl, rfl, rfl⟩ rfl stopping.sound
    · obtain ⟨task, -, view⟩ := later.collector.view_asked
      refine stopping.unchanged rfl rfl ⟨rfl, rfl, rfl⟩ (by rw [view]) ?_
      -- To be made ready does not end any work.
      intro collection latest ended
      rw [ConcurrentCollector.latest?, ConcurrentCollector.latestIndex_asked] at latest
      obtain ⟨before, last, rfl⟩ : ∃ before, later.collector.latest? = some before ∧
          before.rouse = collection := by
        simpa [ConcurrentCollector.asked, ConcurrentCollector.latest?] using latest
      rw [Collection.rouse_eq]
      exact stopping.sound before last (Collection.task_rouse_eq_ended_iff.mp ended)
  | resumeStop resumed =>
    obtain ⟨_, _, -, -, -, ⟨_, -, -, rfl⟩ | ⟨-, -, rfl⟩⟩ :=
      ConcurrentCollector.resumeStop_cases resumed
    · exact stopping.unchanged rfl stopping.wish ⟨rfl, rfl, rfl⟩ rfl stopping.sound
    · exact stopping.unchanged rfl stopping.wish ⟨rfl, rfl, rfl⟩ rfl stopping.sound
  | advance index => exact stopping.advanced serial index
  | fetch answered =>
    cases answered
    exact stopping.unchanged rfl stopping.wish ⟨rfl, rfl, rfl⟩ rfl stopping.sound

/-- A collector that runs and was asked to stop shall stop until the next start. -/
theorem stopping_of_run (serial : serving.collector.Serial)
    (orderly : serving.seen.collector.Orderly) (running : serving.collector.running = true)
    (run : SequentialRun serving.asked later)
    (noStart : later.seen.starts = serving.seen.starts) :
    Stopping serving later ∧ later.collector.Serial ∧ later.seen.collector.Orderly := by
  -- The run begins with the request; serial and orderly are carried along with the wish.
  obtain ⟨effect, serialAsked⟩ := (sequential_asked running).effect serial orderly
  have orderlyAsked := effect.orderly orderly
  induction run with
  | refl => exact ⟨stopping_asked orderly running, serialAsked, orderlyAsked⟩
  | @tail before next earlier step ih =>
    -- There are as many starts on the way as there are at both ends.
    have first := Run.starts_le (SequentialRun.run earlier)
    have second := step.step.starts_le
    have asking := starts_asked serving
    obtain ⟨stopping, serialBefore, orderlyBefore⟩ := ih (by omega)
    obtain ⟨effect, serialNext⟩ := step.effect serialBefore orderlyBefore
    exact ⟨stopping.of_step serialBefore step.step (by omega), serialNext,
      effect.orderly orderlyBefore⟩

/-- What can be said of a collector at any time. -/
structure LifeCycle (serving : Serving) : Prop where
  running_iff : serving.collector.running = true ↔
    ∃ collection ∈ serving.collector.collections, collection.task ≠ .ended
  closed : serving.collector.running = false →
    ∀ collection, serving.collector.latest? = some collection → collection.tail.reader = none
  rests : serving.collector.running = false → ∀ later, Run serving later →
    later.seen.starts = serving.seen.starts →
      later.collector.running = false ∧ later.seen.allPolls = serving.seen.allPolls ∧
      ∀ figure, figure ≠ "pending" →
        later.collector.status.lookup figure = serving.collector.status.lookup figure
  /-- A collector that is asked to stop makes no other poll, and the stop succeeds. -/
  stops : serving.collector.running = true →
    serving.collector.requestStop = (.waits, serving.collector.asked) ∧
      ∀ later, Run serving.asked later → later.seen.starts = serving.seen.starts →
        later.seen.allPolls = serving.seen.allPolls ∧
        ∀ call answer collector log,
          later.collector.resumeStop call = some (answer, collector, log) →
            answer = .ok .stopped ∧ collector.running = false ∧
            ∀ figure, figure ≠ "running" → figure ≠ "pending" →
              collector.status.lookup figure = serving.collector.status.lookup figure
  /-- A stop during which nothing else is served ends the work as a whole call would. -/
  stopsAlone : serving.collector.running = true → ∃ next, SequentialRun serving next ∧
    next.seen = serving.seen.after serving.seen.collector.stop.2.1 [.stopped] ∧
    next.collector.stops = serving.collector.stops
  refusesStart : ∀ store path offset answer collector log,
    serving.collector.start store path offset = .ok (answer, collector, log) →
      answer = .alreadyRunning ∨ answer = .noSuchFile path →
        collector = serving.collector ∧ log = []
  refusesStop : ∀ answer collector, serving.collector.requestStop = (.answered answer, collector) →
    answer = .notRunning ∧ collector = serving.collector

/-- A stop that goes on in a collector which shall stop succeeds, and what is told is the same as
when it was asked for. -/
theorem Stopping.resumed (stopping : Stopping serving later) (serial : later.collector.Serial)
    {call : Nat} {answer : Except PollError StopAnswer} {collector : ConcurrentCollector}
    {log : List LogRecord}
    (resumed : later.collector.resumeStop call = some (answer, collector, log)) :
    answer = .ok .stopped ∧ collector.running = false ∧
      ∀ figure, figure ≠ "running" → figure ≠ "pending" →
        collector.status.lookup figure = serving.collector.status.lookup figure := by
  obtain ⟨index, collection, called, awaited, ended, outcome⟩ :=
    ConcurrentCollector.resumeStop_cases resumed
  -- What it waited for is the latest work, which has not failed.
  have latest : later.collector.latest? = some collection := by
    rw [ConcurrentCollector.latest?, ← serial.awaited index (List.mem_of_getElem? called)]
    exact awaited
  rcases outcome with ⟨error, failed, -⟩ | ⟨-, rfl, rfl⟩
  · rw [stopping.sound collection latest ended] at failed
    cases failed
  · refine ⟨rfl, rfl, ?_⟩
    intro figure notRunning notPending
    unfold ConcurrentCollector.status
    refine Collector.lookup_status_eq ?_ ?_ ?_ ?_ (fun same => absurd same notRunning) notPending
    · exact stopping.ingested_eq
    · exact stopping.dropped_eq
    · exact stopping.lastError_eq
    · exact stopping.stats_eq

/-- All of this holds of a collector that is serial and orderly. -/
theorem lifeCycle_of_serial (serial : serving.collector.Serial)
    (orderly : serving.seen.collector.Orderly) : serving.LifeCycle := by
  refine ⟨⟨?_, ?_⟩, ?_, ?_, ?_, exists_stopped serial orderly, ?_, ?_⟩
  · -- The work that is left is the latest.
    intro running
    have goesOn : serving.collector.view.task ≠ .ended := orderly.running_iff.mp running
    cases latest : serving.collector.latest? with
    | none => simp [ConcurrentCollector.view, ConcurrentCollector.seenWith, latest] at goesOn
    | some collection =>
      rw [serving.collector.view_of_latest latest] at goesOn
      exact ⟨collection, List.mem_of_getElem? latest, goesOn⟩
  · -- If the view's work had ended, so had all work.
    rintro ⟨collection, member, goesOn⟩
    obtain ⟨index, found⟩ := List.mem_iff_getElem?.mp member
    exact orderly.running_iff.mpr fun ended => goesOn (serial.task_eq_ended ended found)
  · intro idle collection latest
    refine orderly.closed idle collection.tail ?_
    exact congrArg Collector.tail (serving.collector.view_of_latest latest)
  · intro idle later run noStart
    -- Without a start no step can come at the wrong time, so every run is sequential.
    obtain ⟨effects, -⟩ := (Run.sequential run noStart).effects serial orderly
    have rests := effects.rests idle noStart
    exact ⟨rests.idle, rests.allPolls_eq,
      fun figure notPending => rests.lookup_status idle notPending⟩
  · intro running
    -- The request waits, and from then on the collector shall stop.
    refine ⟨by simp [ConcurrentCollector.requestStop, running, ConcurrentCollector.asked], ?_⟩
    intro later run noStart
    obtain ⟨stopping, serialLater, -⟩ := stopping_of_run serial orderly running
      (Run.sequential run (noStart.trans (starts_asked serving).symm)) noStart
    exact ⟨stopping.allPolls_eq, fun call answer collector log resumed =>
      stopping.resumed serialLater resumed⟩
  · -- The two answers that turn a request down come with the collector as it was.
    intro store path offset answer collector log answered refused
    rcases ConcurrentCollector.start_cases answered with
      ⟨-, -, same, quiet⟩ | ⟨-, -, -, same, quiet⟩ | ⟨-, -, rfl, -⟩
    · exact ⟨same, quiet⟩
    · exact ⟨same, quiet⟩
    · rcases refused with running | missing
      · cases running
      · cases missing
  · intro answer collector requested
    rcases ConcurrentCollector.requestStop_cases requested with ⟨-, same, still⟩ | ⟨-, waits, -⟩
    · cases same
      exact ⟨rfl, still⟩
    · cases waits

end Serving

end Unified2
