import Unified2.Proofs.Concurrent.Step

/-! A collector that serves each call as a whole does in one step what a collector whose calls may
overlap does in several, if nothing else is served in between. -/

namespace Unified2

namespace Serving

variable {serving : Serving} {collection : Collection}

/-- The latest work goes on without a turn: what is seen of it is that it waits for less. -/
theorem seen_advanced_of_ready {ticks : Nat} (latest : serving.collector.latest? = some collection)
    (waits : collection.task = .ready (ticks + 1)) :
    serving.advanced serving.collector.latestIndex =
        serving.after (serving.collector.wait serving.collector.latestIndex (.ready ticks)) [] ∧
      (serving.advanced serving.collector.latestIndex).seen =
        { serving.seen with
          collector := { serving.collector.view with task := .ready ticks } } := by
  have found : serving.collector.collections[serving.collector.latestIndex]? = some collection :=
    latest
  have same : serving.advanced serving.collector.latestIndex =
      serving.after (serving.collector.wait serving.collector.latestIndex (.ready ticks)) [] := by
    simp [advanced, happenings, ConcurrentCollector.advance, found, waits]
  refine ⟨same, ?_⟩
  rw [same, seen_after, ConcurrentCollector.view_wait latest]
  simp [Collecting.after, seen]

/-- A tick of a collector that is ready is the latest work going on. -/
theorem seen_advanced_eq_ticked (serial : serving.collector.Serial)
    (skips : collection.tail.skipCorrupt = true)
    (latest : serving.collector.latest? = some collection)
    (goesOn : serving.collector.stopping = false) {ticks : Nat}
    (ready : collection.task = .ready ticks) :
    (serving.advanced serving.collector.latestIndex).seen = serving.seen.ticked := by
  have found : serving.collector.collections[serving.collector.latestIndex]? = some collection :=
    latest
  have view := serving.collector.view_of_latest latest
  have seenBy := serial.seenBy_latest latest
  have task : serving.collector.view.task = .ready ticks := by rw [view]; exact ready
  have has : serving.collector.view.tail = some collection.tail := by rw [view]; rfl
  cases ticks with
  | succ ticks =>
    -- There is no turn yet, so nothing is polled.
    rw [(seen_advanced_of_ready latest ready).2]
    simp [Collecting.ticked, Collecting.duePoll?, Collector.tick, Collecting.after, seen, task]
  | zero =>
    have happens : serving.happenings serving.collector.latestIndex =
        [.polled (collection.tail.poll serving.files (some serving.collector.batch))] := by
      rw [happenings_of_due found ready]
      exact turned_eq_polled goesOn (seenBy ▸ has)
    -- Both poll the same cursor for the same batch.
    have polls : serving.seen.duePoll? =
        some (collection.tail.poll serving.files (some serving.collector.batch)) := by
      simp [Collecting.duePoll?, seen, task, has]
      rfl
    have turns : (serving.collector.advance serving.collector.latestIndex serving.files
        serving.now).1.view = (serving.collector.view.turn serving.files serving.now).1 := by
      simp only [ConcurrentCollector.advance, found, ready, ConcurrentCollector.turn, goesOn,
        serial.own collection latest, seenBy, Bool.false_eq_true, if_false]
      -- Whether the turn brings records or fails, there is a cursor afterwards.
      rcases Collector.turn_cases has skips serving.files serving.now with
        ⟨records, task, -, -, turned⟩ | ⟨error, -, -, -, turned⟩
      · rw [turned]
        exact ConcurrentCollector.view_moved latest rfl rfl rfl _
      · rw [turned]
        exact ConcurrentCollector.view_moved latest
          (show (serving.collector.view.failed error).tail = some collection.tail.close by
            simp [Collector.failed, Collector.finish, has]) rfl rfl _
    rw [advanced, seen_after, happens, turns, Collecting.ticked, polls]
    simp [Collector.tick, seen, task]

/-- Work that shall end does so after the ticks that come before its turn, without another poll. -/
theorem exists_finished (serial : serving.collector.Serial)
    (latest : serving.collector.latest? = some collection)
    (wish : serving.collector.stopping = true) {ticks : Nat}
    (ready : collection.task = .ready ticks) :
    ∃ next closed, SequentialRun serving next ∧
      next.seen = serving.seen.after serving.seen.collector.finish [.stopped] ∧
      next.collector.stops = serving.collector.stops ∧
      next.collector.latestIndex = serving.collector.latestIndex ∧
      next.collector.latest? = some closed ∧ closed.task = .ended ∧ closed.failure = none := by
  -- The induction is on the ticks; what is waited for does not show once the work has ended.
  induction ticks generalizing serving collection with
  | zero =>
    have closes : serving.collector.view.finish.tail = some collection.tail.close := by
      rw [serving.collector.view_of_latest latest]
      rfl
    -- At its turn the work closes its cursor and ends without a failure.
    let closed : Collection :=
      { tail := collection.tail.close, task := .ended, moves := some serving.collector.latestIndex }
    have ended := advanced_of_stopping serial latest wish ready
    refine ⟨serving.advanced serving.collector.latestIndex, closed,
      .single (sequential_advanced _ _), ?_, ?_, ?_, ?_, rfl, rfl⟩
    · rw [ended, seen_after, ConcurrentCollector.view_moved latest closes rfl rfl]
      rfl
    · rw [ended]
      rfl
    · rw [ended]
      exact ConcurrentCollector.latestIndex_moved ..
    · rw [ended]
      exact (ConcurrentCollector.latest?_moved latest _ _).trans (by rw [closes]; rfl)
  | succ ticks ih =>
    -- One tick passes, which shows in nothing that the end would not overwrite.
    obtain ⟨same, shown⟩ := seen_advanced_of_ready latest ready
    have waits := ConcurrentCollector.latest?_wait latest (.ready ticks)
    obtain ⟨next, closed, run, ended, stops, index, rest⟩ :=
      @ih (serving.after (serving.collector.wait serving.collector.latestIndex (.ready ticks)) [])
        _ (serial.wait _) waits wish rfl
    rw [← same] at run ended
    refine ⟨next, closed, .head (sequential_advanced _ _) run, ?_, stops, ?_, rest⟩
    · rw [ended, shown]
      rfl
    · rw [index]
      exact ConcurrentCollector.latestIndex_wait ..

/-- A stop is a request, the turn at which the work finds that it shall end, and a resumption. -/
theorem exists_stopped (serial : serving.collector.Serial)
    (orderly : serving.seen.collector.Orderly) (running : serving.collector.running = true) :
    ∃ next, SequentialRun serving next ∧
      next.seen = serving.seen.after serving.seen.collector.stop.2.1 [.stopped] ∧
      next.collector.stops = serving.collector.stops := by
  -- What runs has work left, which waits for its turn once it was made ready.
  have goesOn : serving.collector.view.task ≠ .ended := orderly.running_iff.mp running
  cases latest : serving.collector.latest? with
  | none => simp [ConcurrentCollector.view, ConcurrentCollector.seenWith, latest] at goesOn
  | some collection =>
  have task : serving.collector.view.task = collection.task := by
    rw [serving.collector.view_of_latest latest]
    rfl
  have found : serving.collector.collections[serving.collector.latestIndex]? = some collection :=
    latest
  have roused : serving.asked.collector.latest? = some collection.rouse := by
    simp [asked, after, ConcurrentCollector.asked, ConcurrentCollector.latest?,
      ConcurrentCollector.latestIndex] at found ⊢
    exact ⟨_, found, rfl⟩
  -- Parked work is woken by the request, at the cost of two ticks.
  obtain ⟨ticks, ready⟩ : ∃ ticks, collection.rouse.task = .ready ticks := by
    unfold Collection.rouse
    rw [task] at goesOn
    cases waits : collection.task with
    | ended => exact absurd waits goesOn
    | ready ticks => exact ⟨ticks, waits⟩
    | parked deadline => exact ⟨2, rfl⟩
  obtain ⟨ended, closed, run, shown, stops, index, last, gone, sound⟩ :=
    exists_finished serial.asked roused rfl ready
  have viewed : ended.seen = serving.seen.after serving.seen.collector.finish [.stopped] := by
    obtain ⟨task, -, view⟩ := serving.collector.view_asked
    rw [shown]
    simp [seen, asked, after, Collecting.after, view, Collector.finish]
  -- The stop that was asked for is the last of those that wait.
  have called : ended.collector.stops[serving.collector.stops.length]? =
      some serving.collector.latestIndex := by
    rw [stops]
    simp [asked, after, ConcurrentCollector.asked]
  have awaited : ended.collector.collections[serving.collector.latestIndex]? = some closed := by
    rw [← index.trans (ConcurrentCollector.latestIndex_asked _)]
    exact last
  obtain ⟨log, resumed⟩ := ConcurrentCollector.resumeStop_eq called awaited gone sound
  have resumes : Sequential ended (ended.cleared serving.collector.stops.length) :=
    sequential_resumed resumed
  refine ⟨_, .head (sequential_asked running) (run.tail resumes), ?_, ?_⟩
  · -- The work has cleared the flag already.
    obtain ⟨_, stopped⟩ :=
      Collector.stop_eq (show serving.seen.collector.running = true from running)
    have idle : ended.collector.running = false :=
      congrArg (fun collecting : Collecting => collecting.collector.running) viewed
    have still : (ended.cleared serving.collector.stops.length).seen = ended.seen := by
      simp [cleared, seen, after, ConcurrentCollector.view, ConcurrentCollector.seenWith,
        ConcurrentCollector.latest?, ConcurrentCollector.latestIndex, idle]
    rw [still, viewed, stopped]
  · -- Only this stop has its answer.
    simp [cleared, after, stops, asked, ConcurrentCollector.asked,
      List.eraseIdx_append_of_length_le (Nat.le_refl _)]

/-- No stop waits, and no wish to stop is left that work would still have to heed. -/
structure Quiet (serving : Serving) : Prop where
  serial : serving.collector.Serial
  orderly : serving.seen.collector.Orderly
  alone : serving.collector.stops = []
  heeded : serving.collector.running = true → serving.collector.stopping = false

/-- A collector that was just made is quiet. -/
theorem quiet_of_new {interval : Binary64} {capacity : Option Int} {batch : Int}
    {collector : ConcurrentCollector}
    (made : ConcurrentCollector.new interval capacity batch = .ok collector) (files : FileStore)
    (now : Instant) : Quiet { files, now, collector } := by
  obtain ⟨-, noStop, viewed⟩ := ConcurrentCollector.of_new_eq_ok made
  refine ⟨ConcurrentCollector.serial_of_new made, Collector.orderly_of_new viewed, noStop, ?_⟩
  intro running
  have idle : collector.view.running = false := by rw [(Collector.of_new_eq_ok viewed).1]
  have runs : collector.view.running = true := running
  simp [idle] at runs

/-- Work that goes on leaves a quiet collector quiet. -/
theorem Quiet.advanced (quiet : serving.Quiet) (index : Nat) : (serving.advanced index).Quiet := by
  cases running : serving.collector.running with
  | false =>
    -- Where nothing runs there is no work left that could go on.
    have ended : serving.collector.view.task = .ended := quiet.orderly.task_eq_ended running
    rw [advanced_of_ended fun collection found => quiet.serial.task_eq_ended ended found]
    exact quiet
  | true =>
    obtain ⟨effect, serial⟩ := effect_advanced quiet.serial quiet.orderly index
    obtain ⟨stops, stopping⟩ := serving.collector.advance_keeps index serving.files serving.now
    exact ⟨serial, effect.orderly quiet.orderly, stops.trans quiet.alone,
      fun _ => stopping.trans (quiet.heeded running)⟩

/-- A tick of a quiet collector that waits for its turn is the latest work going on. -/
theorem Quiet.seen_advanced (quiet : serving.Quiet) {ticks : Nat}
    (waits : serving.collector.view.task = .ready ticks) :
    (serving.advanced serving.collector.latestIndex).seen = serving.seen.ticked := by
  -- Work that waits for its turn is that of a collection which runs.
  have running : serving.collector.running = true :=
    quiet.orderly.running_iff.mpr (by simp [seen, waits])
  cases latest : serving.collector.latest? with
  | none => simp [ConcurrentCollector.view, ConcurrentCollector.seenWith, latest] at waits
  | some collection =>
  have view := serving.collector.view_of_latest latest
  have ready : collection.task = .ready ticks := by
    rw [view] at waits
    exact waits
  have skips : collection.tail.skipCorrupt = true :=
    quiet.orderly.skips collection.tail (by simp [seen, view, ConcurrentCollector.seenWith])
  exact seen_advanced_eq_ticked quiet.serial skips latest (quiet.heeded running) ready

/-- A tick is a step of the latest work, or nothing. -/
theorem Quiet.exists_ticked (quiet : serving.Quiet) :
    ∃ later, SequentialRun serving later ∧ later.seen = serving.seen.ticked ∧ later.Quiet := by
  -- Work that has ended or that waits for its deadline does nothing at a tick.
  rcases waits : serving.collector.view.task with _ | ticks | deadline
  · refine ⟨serving, .refl, ?_, quiet⟩
    simp [Collecting.ticked, Collecting.duePoll?, Collector.tick, Collecting.after, seen, waits]
  · exact ⟨_, .single (sequential_advanced serving _), quiet.seen_advanced waits, quiet.advanced _⟩
  · refine ⟨serving, .refl, ?_, quiet⟩
    simp [Collecting.ticked, Collecting.duePoll?, Collector.tick, Collecting.after, seen, waits]

/-- Work whose deadline has come is ready once it goes on. -/
theorem advanced_of_due {deadline : Instant} (latest : serving.collector.latest? = some collection)
    (waits : collection.task = .parked deadline) (due : deadline.isDue serving.now = true) :
    serving.advanced serving.collector.latestIndex =
      serving.after (serving.collector.wait serving.collector.latestIndex (.ready 0)) [] := by
  have found : serving.collector.collections[serving.collector.latestIndex]? = some collection :=
    latest
  simp [advanced, happenings, ConcurrentCollector.advance, found, waits, due]

/-- Time passes; work whose deadline has come goes on and is ready then. -/
theorem Quiet.exists_elapsed (quiet : serving.Quiet) (seconds : Binary64) :
    ∃ later, SequentialRun serving later ∧ later.seen = serving.seen.elapsed seconds ∧
      later.Quiet := by
  -- The clock moves first; only work whose deadline it then passes goes on.
  let passed : Serving := { serving with now := serving.now.add seconds }
  have passes : SequentialRun serving passed :=
    .single ⟨.elapse serving seconds, fun more => absurd rfl more⟩
  have still : passed.Quiet := ⟨quiet.serial, quiet.orderly, quiet.alone, quiet.heeded⟩
  rcases waits : passed.collector.view.task with _ | ticks | deadline
  · refine ⟨passed, passes, ?_, still⟩
    simp [Collecting.elapsed, Collector.wake, seen, passed] at waits ⊢
    simp [waits]
  · refine ⟨passed, passes, ?_, still⟩
    simp [Collecting.elapsed, Collector.wake, seen, passed] at waits ⊢
    simp [waits]
  · cases due : deadline.isDue passed.now with
    | false =>
      refine ⟨passed, passes, ?_, still⟩
      simp [Collecting.elapsed, Collector.wake, seen, passed] at waits due ⊢
      simp [waits, due]
    | true =>
      refine ⟨passed.advanced passed.collector.latestIndex,
        passes.tail (sequential_advanced _ _), ?_, still.advanced _⟩
      cases latest : passed.collector.latest? with
      | none => simp [ConcurrentCollector.view, ConcurrentCollector.seenWith, latest] at waits
      | some collection =>
      have parked : collection.task = .parked deadline := by
        rw [passed.collector.view_of_latest latest] at waits
        exact waits
      rw [advanced_of_due latest parked due, seen_after, ConcurrentCollector.view_wait latest]
      simp [Collecting.elapsed, Collecting.after, Collector.wake, seen, passed] at waits due ⊢
      simp [waits, due]

/-- What a collector does that serves each call as a whole is done by several steps of one whose
calls may overlap, and looks the same. -/
theorem Quiet.exists_of_step (quiet : serving.Quiet) {next : Collecting}
    (step : Collecting.Step serving.seen next) :
    ∃ later, SequentialRun serving later ∧ later.seen = next ∧ later.Quiet := by
  cases step with
  | change files =>
    have changes : Sequential serving { serving with files } :=
      ⟨.change serving files, fun more => absurd rfl more⟩
    exact ⟨_, .single changes, rfl, quiet.serial, quiet.orderly, quiet.alone, quiet.heeded⟩
  | elapse seconds => exact quiet.exists_elapsed seconds
  | start answered =>
    obtain ⟨collector, starts, same⟩ := ConcurrentCollector.start_of_view answered
    have step : Sequential serving (serving.after collector _) :=
      ⟨.start starts, fun _ => quiet.alone⟩
    obtain ⟨effect, serial⟩ := step.effect quiet.serial quiet.orderly
    -- Only a start that succeeds changes anything, and it takes the wish to stop back.
    have quietAfter : collector.stops = [] ∧
        (collector.running = true → collector.stopping = false) := by
      rcases ConcurrentCollector.start_cases starts with
        ⟨-, -, rfl, -⟩ | ⟨-, -, -, rfl, -⟩ | ⟨-, -, -, rfl⟩
      · exact ⟨quiet.alone, quiet.heeded⟩
      · exact ⟨quiet.alone, quiet.heeded⟩
      · exact ⟨quiet.alone, fun _ => rfl⟩
    exact ⟨_, .single step, by rw [seen_after, same], serial, effect.orderly quiet.orderly,
      quietAfter.1, quietAfter.2⟩
  -- This is the one call that takes several steps.
  | stop answered =>
    rcases Collector.stop_cases answered with ⟨-, rfl, rfl, -⟩ | ⟨running, rfl, rfl⟩
    · exact ⟨serving, .refl, by simp [Collecting.after, StopAnswer.happenings], quiet⟩
    · obtain ⟨next, run, shown, stops⟩ := exists_stopped quiet.serial quiet.orderly running
      obtain ⟨effects, serial⟩ := run.effects quiet.serial quiet.orderly
      rw [answered] at shown
      refine ⟨next, run, shown, serial, effects.orderly quiet.orderly, stops.trans quiet.alone, ?_⟩
      intro runs
      -- It was stopped.
      have idle : next.collector.running = false :=
        congrArg (fun collecting : Collecting => collecting.collector.running) shown
      simp [idle] at runs
  | tick => exact quiet.exists_ticked
  | @fetch limit fetch collector answered =>
    cases answered
    have fetches : Sequential serving (serving.after (serving.collector.fetch limit).2
        [.fetched (serving.collector.fetch limit).1]) :=
      ⟨.fetch rfl, fun more => absurd
        (by simp [after, seen, Collecting.starts, Happening.isStart]) more⟩
    have orderly := quiet.orderly
    exact ⟨_, .single fetches, rfl, quiet.serial.of_collections rfl (List.Subset.refl _),
      ⟨orderly.running_iff, orderly.closed, orderly.attached, orderly.skips⟩, quiet.alone,
      quiet.heeded⟩

/-- What a collector can do that serves each call as a whole can be done by one whose calls may
overlap. -/
theorem Quiet.exists_of_run (quiet : serving.Quiet) {next : Collecting}
    (run : Collecting.Run serving.seen next) :
    ∃ later, SequentialRun serving later ∧ later.seen = next ∧ later.Quiet := by
  -- A step is matched from any quiet state, and leaves one, so runs are matched step by step.
  induction run with
  | refl => exact ⟨serving, .refl, rfl, quiet⟩
  | tail _ step ih =>
    obtain ⟨before, first, rfl, still⟩ := ih
    obtain ⟨later, second, same, quietToo⟩ := still.exists_of_step step
    exact ⟨later, first.trans second, same, quietToo⟩

end Serving

end Unified2
