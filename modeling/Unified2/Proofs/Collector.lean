import Unified2.Collector
import Unified2.Proofs.Queue
import Unified2.Proofs.Tail.Loop

/-! What the operations of a collector can do. One that settles puts all records to come into its
queue, whatever its batches. -/

namespace Unified2

namespace Collector

variable {store : FileStore} {number start : Nat} {collector : Collector} {tail : Tail}
  {reader : FileReader} {tries : Nat} {sweep : Sweep OpenFile} {passed later : List Frame}
  {rest : Bytes}

/-- A collector that is about to start at an offset of a file. -/
def started (collector : Collector) (path : String) (offset : Int) : Collector :=
  { collector with
    tail := some (Tail.new path offset true), lastError := none, task := .ready 0, running := true }

/-- A collector that does not run starts at any offset of a file that is there. -/
theorem start_eq_ok (idle : collector.running = false) {path : String}
    (found : store.fileNumber (FilePath.normalize path) = .ok number) (offset : Int) :
    ∃ log, collector.start store path offset =
      .ok (.started path offset, collector.started path offset, log) := by
  -- Whether there is a file is all that is asked before the first turn.
  have there : store.isFile (FilePath.normalize path) = .ok true := by
    simp [FileStore.isFile, found]
  simp [start, idle, there, started, bind, Except.bind, pure, Except.pure]

/-- A collector that waits for its interval is not ready. -/
theorem pause_ne_ready (interval : Binary64) (now : Instant) : pause interval now ≠ .ready 0 := by
  -- Some ticks pass even if the interval is over at once.
  unfold pause
  split
  · simp
  · dsimp only
    split <;> simp

/-- A collector that waits for its interval has work left. -/
theorem pause_ne_ended (interval : Binary64) (now : Instant) : pause interval now ≠ .ended := by
  -- It becomes ready after some ticks or at a deadline.
  unfold pause
  split
  · simp
  · dsimp only
    split <;> simp

/-- A collector that is not ready takes no turn. -/
theorem settleWithin_of_ne_ready (waits : collector.task ≠ .ready 0) (now : Instant)
    (turns : Nat) : settleWithin store now turns collector = (collector, []) := by
  cases turns with
  | zero => rfl
  | succ turns => simp [settleWithin, waits]

/-- The collector after records were put into its queue, and what it waits for then. -/
def gained (collector : Collector) (tail : Tail) (records : List Record) (task : CollectorTask) :
    Collector :=
  { collector with
    tail := some tail
    queue := collector.queue.putMany records
    ingested := collector.ingested + records.length
    task }

/-- What was gained in two parts was gained. -/
theorem gained_gained (collector : Collector) (tail after : Tail) (records more : List Record)
    (task next : CollectorTask) :
    (collector.gained tail records task).gained after more next =
      collector.gained after (records ++ more) next := by
  simp [gained, DropQueue.putMany_append, Nat.add_assoc]

/-- Records that a turn brought are gained; a full batch of them calls for the next turn. -/
theorem ingest_eq (collector : Collector) (tail : Tail) (now : Instant) (records : List Record) :
    ingest { collector with tail := some tail } now records =
      collector.gained tail records
        (if records ≠ [] ∧ collector.batch ≤ (records.length : Int) then .ready 0
        else pause collector.interval now) := by
  -- Neither of the two ways on changes what was put into the queue.
  have same : (!records.isEmpty && decide (collector.batch ≤ (records.length : Int))) = true ↔
      records ≠ [] ∧ collector.batch ≤ (records.length : Int) := by simp
  by_cases full : records ≠ [] ∧ collector.batch ≤ (records.length : Int)
  · simp only [ingest, if_pos (same.mpr full), if_pos full, gained]
  · simp only [ingest, if_neg (mt same.mp full), if_neg full, gained, park]

/-- A turn gains the records of the loop that its batch ends; a full batch calls for another turn,
and anything else was the end of the file. -/
theorem turn_swept (has : collector.tail = some tail) (opened : tail.openReader store = .ok reader)
    (skips : tail.skipCorrupt = true) (positive : 0 < collector.batch)
    (loops : tail.rule.Loops (some collector.batch.toNat)
      ⟨store.content reader.number, reader⟩ tries sweep) (now : Instant) :
    (collector.turn store now).1 =
      collector.gained (tail.swept sweep) (sweep.sightings.filterMap Sighting.known?)
        (if sweep.ending = .full then .ready 0 else pause collector.interval now) := by
  obtain ⟨polled, answered⟩ := Tail.poll_of_loops opened skips
    (show tail.rule.Loops ((some collector.batch).map Int.toNat) _ tries sweep from loops)
  -- A batch is full exactly if its limit is what ended the loop.
  obtain ⟨within, full⟩ := loops.records (show tail.rule.countUnknown = false from rfl) rfl
  have filled : (sweep.sightings.filterMap Sighting.known? ≠ [] ∧
      collector.batch ≤ ((sweep.sightings.filterMap Sighting.known?).length : Int)) ↔
      sweep.ending = .full := by
    rw [full, ← List.length_pos_iff]
    omega
  simp only [turn, has, polled, answered, ingest_eq]
  exact congrArg _ (if_congr filled rfl rfl)

/-- With a turn for every byte left and one more a collector gains what one loop without a limit
brings, and waits. -/
theorem settleWithin_swept {turns : Nat} (ready : collector.task = .ready 0)
    (has : collector.tail = some tail) (opened : tail.openReader store = .ok reader)
    (skips : tail.skipCorrupt = true) (positive : 0 < collector.batch)
    (loops : tail.rule.Loops none ⟨store.content reader.number, reader⟩ tries sweep)
    (enough : ByteSource.remaining (OpenFile.mk (store.content reader.number) reader) < turns)
    (now : Instant) :
    (settleWithin store now turns collector).1 =
      collector.gained (tail.swept sweep) (sweep.sightings.filterMap Sighting.known?)
        (pause collector.interval now) := by
  -- A full batch holds a record, so the bytes left get fewer from turn to turn.
  induction turns generalizing collector tail reader tries sweep with
  | zero => omega
  | succ turns ih =>
    obtain ⟨_, first, batch⟩ := SweepRule.exists_loops OpenFile.draws tail.rule
      (some collector.batch.toNat) (OpenFile.mk (store.content reader.number) reader)
    have turned := turn_swept has opened skips positive batch now
    simp only [settleWithin, ready, if_pos]
    by_cases full : first.ending = .full
    · -- The later turns go on where the batch ended, and so does a loop without a limit.
      obtain ⟨opens, goesOn⟩ := Tail.openReader_swept batch
      obtain ⟨_, second, later⟩ := SweepRule.exists_loops OpenFile.draws tail.rule none first.source
      obtain ⟨_, both⟩ := batch.append full later
      have whole := loops.unique both
      have brought := (batch.records (show tail.rule.countUnknown = false from rfl) rfl).2.mp full
      have drawn := batch.remaining_of_full OpenFile.draws full
      have least : 0 < Frame.leastKnown := by decide
      have fewer : ByteSource.remaining first.source < turns := by
        have some : 0 < (first.sightings.filterMap Sighting.known?).length := by omega
        have one := Nat.mul_pos some least
        omega
      rw [if_pos full] at turned
      rw [turned, ih (show (collector.gained (tail.swept first) _ (.ready 0)).task = .ready 0
        from rfl) rfl opens skips positive (goesOn.symm ▸ later) (goesOn.symm ▸ fewer),
        gained_gained, Tail.swept_swept full, whole, List.filterMap_append]
      rfl
    · -- A batch that is not full was not ended by its limit.
      have whole := loops.unique (batch.unlimited full)
      rw [if_neg full] at turned
      rw [turned, settleWithin_of_ne_ready (pause_ne_ready _ _), whole]

/-- A collector that settles gains what one poll without a limit brings, and waits. -/
theorem settle_swept (ready : collector.task = .ready 0) (has : collector.tail = some tail)
    (opened : tail.openReader store = .ok reader) (skips : tail.skipCorrupt = true)
    (positive : 0 < collector.batch) (now : Instant) :
    (collector.settle store now).1 =
      collector.gained (tail.poll store none).tail (tail.poll store none).records
        (pause collector.interval now) := by
  obtain ⟨tries, sweep, loops⟩ := SweepRule.exists_loops OpenFile.draws tail.rule none
    (OpenFile.mk (store.content reader.number) reader)
  obtain ⟨polled, answered⟩ := Tail.poll_of_loops opened skips
    (show tail.rule.Loops (none.map Int.toNat) _ tries sweep from loops)
  have records : (tail.poll store none).records = sweep.sightings.filterMap Sighting.known? := by
    simp [Poll.records, polled, answered, Except.toOption]
  -- There are as many turns as bytes to read, and one more.
  have turns : ((collector.tail.map fun tail => tail.unread store).getD 0) + 1 =
      ByteSource.remaining (OpenFile.mk (store.content reader.number) reader) + 1 := by
    simp [has, Tail.unread, opened]
  rw [settle, turns, records, polled]
  exact settleWithin_swept ready has opened skips positive loops (Nat.lt_succ_self _) now

/-- A ready collector that settles gains all records to come and waits, whatever its batches. -/
theorem settle_eq (ready : collector.task = .ready 0) (has : collector.tail = some tail)
    (follows : tail.Follows store number start passed later rest)
    (representable : tail.reader = none → tail.offset < FileReader.offsetLimit)
    (skips : tail.skipCorrupt = true) (positive : 0 < collector.batch) (now : Instant) :
    ∃ after, after.Follows store number start (passed ++ later) [] rest ∧
      after.shortfall = some (.ofRest rest) ∧
      (collector.settle store now).1 =
        collector.gained after (later.filterMap Frame.known?)
          (pause collector.interval now) := by
  -- Without a limit one poll brings all of them.
  obtain ⟨reader, opened, -⟩ := follows.opens representable
  obtain ⟨moved, answered, told⟩ := follows.poll_all representable skips
  have records : (tail.poll store none).records = later.filterMap Frame.known? := by
    simp [Poll.records, answered, Except.toOption]
  exact ⟨_, moved, told, records ▸ settle_swept ready has opened skips positive now⟩

/-- A collector that was made was never started, and its queue is empty. -/
theorem of_new_eq_ok {interval : Binary64} {capacity : Option Int} {batch : Int}
    {collector : Collector} (made : new interval capacity batch = .ok collector) :
    collector = { interval, batch, queue := { capacity := capacity.map Int.toNat } } ∧
      ∀ most, capacity = some most → 0 ≤ most := by
  cases capacity with
  | none =>
    have same : { interval, batch, queue := { capacity := none } } = collector := by
      simpa [new, DropQueue.ofCapacity, bind, Except.bind, pure, Except.pure] using made
    exact ⟨same.symm, by simp⟩
  | some most =>
    -- A capacity too wide or below zero makes no queue.
    simp only [new, DropQueue.ofCapacity] at made
    split at made
    · simp [bind, Except.bind] at made
    split at made
    · simp [bind, Except.bind] at made
    · rename_i notNegative
      have same : { interval, batch, queue := { capacity := some most.toNat } } = collector := by
        simpa [bind, Except.bind, pure, Except.pure] using made
      refine ⟨same.symm, ?_⟩
      intro other limited
      cases limited
      omega

/-- A request to start is refused while a collection runs and where there is no file, and starts a
collection otherwise. -/
theorem start_cases {collector after : Collector} {store : FileStore} {path : String}
    {offset : Int} {answer : StartAnswer} {log : List LogRecord}
    (answered : collector.start store path offset = .ok (answer, after, log)) :
    (collector.running = true ∧ answer = .alreadyRunning ∧ after = collector ∧ log = []) ∨
    (collector.running = false ∧ store.isFile (FilePath.normalize path) = .ok false ∧
      answer = .noSuchFile path ∧ after = collector ∧ log = []) ∨
    (collector.running = false ∧ store.isFile (FilePath.normalize path) = .ok true ∧
      answer = .started path offset ∧ after = collector.started path offset) := by
  -- Whether a collection runs is asked before the path is looked at.
  unfold start at answered
  cases running : collector.running with
  | true =>
    left
    simpa [running, pure, Except.pure, eq_comm] using answered
  | false =>
    right
    cases there : store.isFile (FilePath.normalize path) with
    | error error => simp [running, there, bind, Except.bind] at answered
    | ok found =>
      cases found with
      | false =>
        left
        simpa [running, there, bind, Except.bind, pure, Except.pure, eq_comm] using answered
      | true =>
        right
        simp only [running, there, bind, Except.bind, pure, Except.pure, Bool.false_eq_true,
          if_false, Bool.not_true, Except.ok.injEq, Prod.mk.injEq] at answered
        exact ⟨rfl, rfl, answered.1.symm, answered.2.1.symm⟩

/-- A collector that does not run stays as it is when its flag is cleared. -/
theorem resumeStop_fst {collector : Collector} (idle : collector.running = false) :
    collector.resumeStop.1 = collector := by
  unfold resumeStop
  rw [← idle]

/-- A collection that runs can be stopped. -/
theorem stop_eq {collector : Collector} (running : collector.running = true) :
    ∃ log, collector.stop = (.stopped, collector.finish, log) := by
  refine ⟨collector.finish.resumeStop.2, ?_⟩
  -- The work has cleared the flag, so clearing it once more changes nothing.
  simp only [stop, running, Bool.not_true, Bool.false_eq_true, if_false,
    resumeStop_fst (show collector.finish.running = false from rfl)]

/-- A request to stop is refused while nothing runs, and ends the collection otherwise. -/
theorem stop_cases {collector after : Collector} {answer : StopAnswer} {log : List LogRecord}
    (answered : collector.stop = (answer, after, log)) :
    (collector.running = false ∧ answer = .notRunning ∧ after = collector ∧ log = []) ∨
    (collector.running = true ∧ answer = .stopped ∧ after = collector.finish) := by
  unfold stop at answered
  cases running : collector.running with
  | false =>
    left
    simpa [running, eq_comm] using answered
  | true =>
    right
    obtain ⟨told, stopped⟩ := stop_eq running
    cases stopped.symm.trans answered
    exact ⟨rfl, rfl, rfl⟩

/-- The collector after a failure of the file ended its collection. -/
def failed (collector : Collector) (error : FileError) : Collector :=
  { collector.finish with
    -- Only a failure that the system numbers is remembered.
    lastError := if error.fault?.isSome then some error.message else collector.lastError }

/-- A failure of the file ends the collection. -/
theorem fail_fst (collector : Collector) (tail : Tail) (error : FileError) :
    (collector.fail tail error).1 = collector.failed error := by
  unfold fail failed
  cases error.fault?.isSome <;> rfl

/-- What holds of a collector between any two steps. -/
structure Orderly (collector : Collector) : Prop where
  running_iff : collector.running = true ↔ collector.task ≠ .ended
  /-- A file is open in a collection only. -/
  closed : collector.running = false → ∀ tail, collector.tail = some tail → tail.reader = none
  attached : collector.running = true → collector.tail ≠ none
  skips : ∀ tail, collector.tail = some tail → tail.skipCorrupt = true

/-- A collector that does not run has no work left. -/
theorem Orderly.task_eq_ended {collector : Collector} (orderly : collector.Orderly)
    (idle : collector.running = false) : collector.task = .ended := by
  by_contra more
  have running := orderly.running_iff.mpr more
  simp [idle] at running

/-- A turn gains the records of a poll and goes on, or the file cannot be opened and it ends. -/
theorem turn_cases {collector : Collector} {tail : Tail} (has : collector.tail = some tail)
    (skips : tail.skipCorrupt = true) (store : FileStore) (now : Instant) :
    let poll := tail.poll store (some collector.batch)
    (∃ records task, poll.Brings tail records ∧ task ≠ .ended ∧
      (collector.turn store now).1 = collector.gained poll.tail records task) ∨
    ∃ error, tail.openReader store = .error error ∧ poll.answer = .error (.file error) ∧
      poll.tail = tail ∧ (collector.turn store now).1 = collector.failed error := by
  -- A cursor that skips corrupt frames cannot fail at one, so only the file is left to fail.
  intro poll
  rcases tail.poll_cases skips store (some collector.batch) with
    ⟨error, refused, polled⟩ | ⟨records, brings⟩
  · right
    -- The cursor stays as it was, and so does the collector until it is finished.
    have same : { collector with tail := some tail } = collector := by rw [← has]
    refine ⟨error, refused, by simp only [poll, polled], by simp only [poll, polled], ?_⟩
    simp only [turn, has, polled, same, fail_fst]
  · left
    have answered := brings.answer_eq
    refine ⟨records, if records ≠ [] ∧ collector.batch ≤ (records.length : Int) then .ready 0
      else pause collector.interval now, brings, ?_, ?_⟩
    · split
      · simp
      · exact pause_ne_ended _ _
    · simp only [turn, has, answered, ingest_eq, poll]

/-- To wake up is to become ready. -/
theorem wake_cases (collector : Collector) (now : Instant) :
    ∃ task, (task = .ended ↔ collector.task = .ended) ∧
      collector.wake now = { collector with task } := by
  -- Only a collector that is parked can be woken up.
  unfold wake
  rcases waits : collector.task with _ | ticks | deadline
  · exact ⟨collector.task, by rw [waits], rfl⟩
  · exact ⟨collector.task, by rw [waits], rfl⟩
  · cases due : deadline.isDue now with
    | true => exact ⟨.ready 0, by simp, by simp [due]⟩
    | false => exact ⟨collector.task, by rw [waits], by simp [due]⟩

/-- A tick is a turn of a collector that is due, and else nothing but waiting. -/
theorem tick_cases (collector : Collector) (store : FileStore) (now : Instant) :
    (collector.task = .ready 0 ∧ collector.tick store now = collector.turn store now) ∨
    (collector.task ≠ .ready 0 ∧ ∃ task, (task = .ended ↔ collector.task = .ended) ∧
      collector.tick store now = ({ collector with task }, [])) := by
  -- What it waits for decides: its turn, some more ticks, or a deadline.
  unfold tick
  rcases due : collector.task with _ | (_ | ticks) | deadline
  · exact .inr ⟨by simp, collector.task, by rw [due], rfl⟩
  · exact .inl ⟨rfl, rfl⟩
  · exact .inr ⟨by simp, .ready ticks, by simp, rfl⟩
  · exact .inr ⟨by simp, collector.task, by rw [due], rfl⟩

/-- A collector that was just started is orderly, whatever it was before. -/
theorem orderly_started (collector : Collector) (path : String) (offset : Int) :
    (collector.started path offset).Orderly := by
  -- A new cursor has not opened its file yet.
  refine ⟨by simp [started], by simp [started], by simp [started], ?_⟩
  rintro tail same
  cases same
  rfl

/-- A collector that is made is orderly. -/
theorem orderly_of_new {interval : Binary64} {capacity : Option Int} {batch : Int}
    {collector : Collector} (made : new interval capacity batch = .ok collector) :
    collector.Orderly := by
  -- It does not run, and has no cursor.
  rw [(of_new_eq_ok made).1]
  exact ⟨by simp, by simp, by simp, by simp⟩

end Collector

end Unified2
