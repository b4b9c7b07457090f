import Mathlib.Data.List.DropRight
import Mathlib.Logic.Relation
import Unified2.Proofs.Collector

/-! A collector among files that change and a clock that moves on, and what one step can do to it.

Everything it does is kept in a history, so that whole runs can be spoken of in their last state. -/

namespace Unified2

/-- What a collector did. -/
inductive Happening
  | started (path : String) (offset : Int)
  /-- A turn polled the file. -/
  | polled (poll : Poll)
  | stopped
  | fetched (fetch : Fetch)

namespace Happening

/-- Whether a collection was started. -/
def isStart : Happening → Bool
  | started _ _ => true
  | _ => false

/-- Where a collection was started: the path and the offset. -/
def start? : Happening → Option (String × Int)
  | started path offset => some (path, offset)
  | _ => none

/-- Whether a collection was stopped. -/
def isStop : Happening → Bool
  | stopped => true
  | _ => false

/-- The poll that was made. -/
def poll? : Happening → Option Poll
  | polled poll => some poll
  | _ => none

/-- The fetch that was made. -/
def fetch? : Happening → Option Fetch
  | fetched fetch => some fetch
  | _ => none

/-- The records that came out of a file. -/
def ingested : Happening → List Record
  | polled poll => poll.records
  | _ => []

/-- The records that were taken out of the queue. -/
def taken : Happening → List Record
  | fetched fetch => fetch.records
  | _ => []

end Happening

/-- What is kept of an answer; a request that was refused did nothing. -/
def StartAnswer.happenings : StartAnswer → List Happening
  | started path offset => [.started path offset]
  | _ => []

/-- What is kept of an answer; a request that was refused did nothing. -/
def StopAnswer.happenings : StopAnswer → List Happening
  | stopped => [.stopped]
  | notRunning => []

/-- A collector with the files it reads, the time, and what it did so far. -/
structure Collecting where
  files : FileStore
  now : Instant
  collector : Collector
  history : List Happening := []

namespace Collecting

/-- All polls, in the order they were made. -/
def allPolls (collecting : Collecting) : List Poll :=
  collecting.history.filterMap Happening.poll?

/-- All records that came out of files, in the order they came. -/
def ingested (collecting : Collecting) : List Record :=
  collecting.allPolls.flatMap Poll.records

/-- All fetches, in the order they were made. -/
def fetches (collecting : Collecting) : List Fetch :=
  collecting.history.filterMap Happening.fetch?

/-- All records that were fetched, in the order they were. -/
def fetched (collecting : Collecting) : List Record :=
  collecting.fetches.flatMap Fetch.records

/-- How many collections were started. -/
def starts (collecting : Collecting) : Nat := collecting.history.countP Happening.isStart

/-- Where the latest collection was started: the path and the offset. -/
def latest? (collecting : Collecting) : Option (String × Int) :=
  collecting.history.reverse.findSome? Happening.start?

/-- What happened after the latest start. -/
def sinceStart (collecting : Collecting) : List Happening :=
  collecting.history.rtakeWhile fun happening => !happening.isStart

/-- Whether the latest collection was stopped. -/
def wasStopped (collecting : Collecting) : Bool := collecting.sinceStart.any Happening.isStop

/-- The polls of the latest collection. -/
def polls (collecting : Collecting) : List Poll :=
  collecting.sinceStart.filterMap Happening.poll?

/-- The offset that the status reports, once there was a start. -/
def offset? (collecting : Collecting) : Option Int := collecting.collector.tail.map Tail.offset

/-- The collector changed, and something happened. -/
def after (collecting : Collecting) (collector : Collector) (happenings : List Happening) :
    Collecting :=
  { collecting with collector, history := collecting.history ++ happenings }

section After

variable (collecting : Collecting) (collector : Collector) (happening : Happening)

/-- The collector is the new one. -/
@[simp] theorem collector_after (happenings : List Happening) :
    (collecting.after collector happenings).collector = collector := rfl

/-- The files stay as they are. -/
@[simp] theorem files_after (happenings : List Happening) :
    (collecting.after collector happenings).files = collecting.files := rfl

/-- A poll is the last one of all. -/
@[simp] theorem allPolls_after :
    (collecting.after collector [happening]).allPolls =
      collecting.allPolls ++ happening.poll?.toList := by
  cases happening <;> simp [allPolls, after, Happening.poll?]

/-- What comes out of a file comes behind what came before. -/
@[simp] theorem ingested_after :
    (collecting.after collector [happening]).ingested =
      collecting.ingested ++ happening.ingested := by
  cases happening <;> simp [ingested, allPolls, after, Happening.poll?, Happening.ingested]

/-- What is fetched comes behind what was fetched before. -/
@[simp] theorem fetched_after :
    (collecting.after collector [happening]).fetched = collecting.fetched ++ happening.taken := by
  cases happening <;> simp [fetched, fetches, after, Happening.fetch?, Happening.taken]

/-- A start is counted. -/
@[simp] theorem starts_after :
    (collecting.after collector [happening]).starts =
      collecting.starts + if happening.isStart then 1 else 0 := by
  simp [starts, after, List.countP_singleton]

/-- What happens belongs to the latest collection, unless it starts another one. -/
theorem sinceStart_after :
    (collecting.after collector [happening]).sinceStart =
      if happening.isStart then [] else collecting.sinceStart ++ [happening] := by
  -- Looking back from the end, a start is where the latest collection begins.
  unfold sinceStart after
  rw [List.rtakeWhile_concat]
  cases happening.isStart <;> simp

/-- A start is the latest one, and nothing else is. -/
@[simp] theorem latest?_after :
    (collecting.after collector [happening]).latest? =
      happening.start?.or collecting.latest? := by
  cases happening <;> simp [latest?, after, Happening.start?, List.findSome?_cons]

/-- A collection that was started was not stopped yet. -/
theorem wasStopped_after :
    (collecting.after collector [happening]).wasStopped =
      if happening.isStart then false else collecting.wasStopped || happening.isStop := by
  unfold wasStopped
  rw [sinceStart_after]
  cases happening.isStart <;> simp

/-- A poll is the last one of the latest collection. -/
theorem polls_after :
    (collecting.after collector [happening]).polls =
      if happening.isStart then [] else collecting.polls ++ happening.poll?.toList := by
  unfold polls
  rw [sinceStart_after]
  cases happening <;> simp [Happening.isStart, Happening.poll?]

end After

/-- Time passes, and a collector whose deadline has come becomes ready. -/
def elapsed (collecting : Collecting) (seconds : Binary64) : Collecting :=
  let now := collecting.now.add seconds
  { collecting with now, collector := collecting.collector.wake now }

/-- The poll that the next tick makes, if it makes one. -/
def duePoll? (collecting : Collecting) : Option Poll :=
  let collector := collecting.collector
  if collector.task = .ready 0 then
    collector.tail.map fun tail => tail.poll collecting.files (some collector.batch)
  else none

/-- The collector takes its turn if it has one. -/
def ticked (collecting : Collecting) : Collecting :=
  collecting.after (collecting.collector.tick collecting.files collecting.now).1
    (collecting.duePoll?.map Happening.polled).toList

/-- What can happen next. -/
inductive Step : Collecting → Collecting → Prop
  /-- The files become any others. -/
  | change (collecting : Collecting) (files : FileStore) :
      Step collecting { collecting with files }
  | elapse (collecting : Collecting) (seconds : Binary64) :
      Step collecting (collecting.elapsed seconds)
  | start {collecting : Collecting} {path : String} {offset : Int} {answer : StartAnswer}
      {collector : Collector} {log : List LogRecord}
      (answered : collecting.collector.start collecting.files path offset =
        .ok (answer, collector, log)) :
      Step collecting (collecting.after collector answer.happenings)
  | stop {collecting : Collecting} {answer : StopAnswer} {collector : Collector}
      {log : List LogRecord} (answered : collecting.collector.stop = (answer, collector, log)) :
      Step collecting (collecting.after collector answer.happenings)
  | tick (collecting : Collecting) : Step collecting collecting.ticked
  | fetch {collecting : Collecting} {limit : Option Int} {fetch : Fetch} {collector : Collector}
      (answered : collecting.collector.fetch limit = (fetch, collector)) :
      Step collecting (collecting.after collector [.fetched fetch])

/-- Everything that can happen, in any order and any number of times. -/
abbrev Run : Collecting → Collecting → Prop := Relation.ReflTransGen Step

/-- All that a step can do to a collector that is orderly. -/
inductive Effect (collecting : Collecting) : Collecting → Prop
  /-- At most what the collector waits for changes. -/
  | still (files : FileStore) (now : Instant) {task : CollectorTask}
      (same : task = .ended ↔ collecting.collector.task = .ended) :
      Effect collecting
        { collecting with files, now, collector := { collecting.collector with task } }
  | started (idle : collecting.collector.running = false) {path : String}
      (there : collecting.files.isFile (FilePath.normalize path) = .ok true) (offset : Int) :
      Effect collecting
        (collecting.after (collecting.collector.started path offset) [.started path offset])
  | stopped (running : collecting.collector.running = true) :
      Effect collecting (collecting.after collecting.collector.finish [.stopped])
  /-- A turn brought records. -/
  | gained {tail : Tail} {poll : Poll} {records : List Record} {task : CollectorTask}
      (running : collecting.collector.running = true)
      (has : collecting.collector.tail = some tail)
      (polled : poll = tail.poll collecting.files (some collecting.collector.batch))
      (brings : poll.Brings tail records) (goesOn : task ≠ .ended) :
      Effect collecting
        (collecting.after (collecting.collector.gained poll.tail records task) [.polled poll])
  /-- A turn could not open the file. -/
  | failed {tail : Tail} {poll : Poll} {error : FileError}
      (running : collecting.collector.running = true)
      (has : collecting.collector.tail = some tail)
      (polled : poll = tail.poll collecting.files (some collecting.collector.batch))
      (refused : tail.openReader collecting.files = .error error)
      (answered : poll.answer = .error (.file error)) (stays : poll.tail = tail) :
      Effect collecting (collecting.after (collecting.collector.failed error) [.polled poll])
  | fetched (limit : Option Int) :
      Effect collecting (collecting.after (collecting.collector.fetch limit).2
        [.fetched (collecting.collector.fetch limit).1])

/-- Nothing at all happened. -/
theorem Effect.refl (collecting : Collecting) : Effect collecting collecting :=
  .still collecting.files collecting.now Iff.rfl

/-- What the collector waits for changes, and nothing else. -/
theorem Effect.waits (collecting : Collecting) {task : CollectorTask}
    (same : task = .ended ↔ collecting.collector.task = .ended) :
    Effect collecting { collecting with collector := { collecting.collector with task } } :=
  .still collecting.files collecting.now same

/-- A tick has an effect of one of these kinds. -/
theorem effect_ticked {collecting : Collecting} (orderly : collecting.collector.Orderly) :
    Effect collecting collecting.ticked := by
  unfold ticked duePoll?
  rcases collecting.collector.tick_cases collecting.files collecting.now with
    ⟨due, turns⟩ | ⟨notDue, task, same, waits⟩
  · -- A collector that is ready runs, so it has a file to poll.
    have running : collecting.collector.running = true := orderly.running_iff.mpr (by simp [due])
    obtain ⟨tail, has⟩ := Option.ne_none_iff_exists'.mp (orderly.attached running)
    rw [turns, if_pos due, has]
    rcases Collector.turn_cases has (orderly.skips tail has) collecting.files collecting.now with
      ⟨records, task, brings, goesOn, turned⟩ | ⟨error, refused, answered, stays, turned⟩
    · rw [turned]
      exact .gained running has rfl brings goesOn
    · rw [turned]
      exact .failed running has rfl refused answered stays
  · -- Nothing happened that would be remembered.
    rw [waits, if_neg notDue]
    simpa [after] using Effect.still collecting.files collecting.now same

/-- Every step has an effect of one of these kinds. -/
theorem Step.effect {collecting next : Collecting} (step : Step collecting next)
    (orderly : collecting.collector.Orderly) : Effect collecting next := by
  cases step with
  | change files => exact .still files collecting.now Iff.rfl
  | elapse seconds =>
    -- Only what the collector waits for can change, from a deadline to its turn.
    obtain ⟨task, same, woken⟩ := collecting.collector.wake_cases (collecting.now.add seconds)
    rw [elapsed, woken]
    exact .still collecting.files _ same
  | start answered =>
    -- A request that is turned down leaves no trace in the history.
    rcases Collector.start_cases answered with
      ⟨-, rfl, rfl, -⟩ | ⟨-, -, rfl, rfl, -⟩ | ⟨idle, there, rfl, rfl⟩
    · simpa [after, StartAnswer.happenings] using Effect.refl collecting
    · simpa [after, StartAnswer.happenings] using Effect.refl collecting
    · exact .started idle there _
  | stop answered =>
    rcases Collector.stop_cases answered with ⟨-, rfl, rfl, -⟩ | ⟨running, rfl, rfl⟩
    · simpa [after, StopAnswer.happenings] using Effect.refl collecting
    · exact .stopped running
  | tick => exact effect_ticked orderly
  | fetch answered =>
    cases answered
    exact .fetched _

/-- Every effect leaves the collector orderly. -/
theorem Effect.orderly {collecting next : Collecting} (effect : Effect collecting next)
    (orderly : collecting.collector.Orderly) : next.collector.Orderly := by
  -- Where a collection ends, its task, the flag and the file are given up together.
  cases effect with
  | still files now same =>
    exact ⟨orderly.running_iff.trans (not_congr same).symm, orderly.closed, orderly.attached,
      orderly.skips⟩
  | started idle there offset => exact Collector.orderly_started ..
  | stopped running =>
    -- To finish closes the file.
    refine ⟨by simp [after, Collector.finish], ?_, by simp [after, Collector.finish], ?_⟩
    · rintro - tail same
      obtain ⟨before, -, rfl⟩ := Option.map_eq_some_iff.mp same
      rfl
    · rintro tail same
      obtain ⟨before, has, rfl⟩ := Option.map_eq_some_iff.mp same
      exact orderly.skips before has
  | gained running has polled brings goesOn =>
    refine ⟨by simp [after, Collector.gained, running, goesOn], ?_,
      by simp [after, Collector.gained], ?_⟩
    · -- A collector that gained something still runs.
      intro idle
      simp [after, Collector.gained, running] at idle
    · rintro tail same
      cases same
      exact brings.skips
  | failed running has polled refused answered stays =>
    refine ⟨by simp [after, Collector.failed, Collector.finish], ?_,
      by simp [after, Collector.failed, Collector.finish], ?_⟩
    · rintro - tail same
      obtain ⟨before, -, rfl⟩ := Option.map_eq_some_iff.mp same
      rfl
    · rintro tail same
      obtain ⟨before, hadToo, rfl⟩ := Option.map_eq_some_iff.mp same
      exact orderly.skips before hadToo
  | fetched limit =>
    exact ⟨orderly.running_iff, orderly.closed, orderly.attached, orderly.skips⟩

/-- What comes out of a file is counted when it comes. -/
theorem Effect.counts {collecting next : Collecting} (effect : Effect collecting next) :
    next.collector.ingested + collecting.ingested.length =
      collecting.collector.ingested + next.ingested.length := by
  cases effect with
  | still files now same => rfl
  | gained running has polled brings goesOn =>
    simp only [ingested_after, Happening.ingested, brings.records_eq, List.length_append]
    simp only [collector_after, Collector.gained]
    omega
  | failed running has polled refused answered stays =>
    -- A poll that failed brought nothing to count.
    simp [Happening.ingested, Poll.records_of_error answered, Collector.failed, Collector.finish]
  | started idle there offset => simp [Happening.ingested, Collector.started]
  | stopped running => simp [Happening.ingested, Collector.finish]
  | fetched limit => simp [Happening.ingested, Collector.fetch]

/-- Effects of these kinds, one after the other. -/
abbrev Effects : Collecting → Collecting → Prop := Relation.ReflTransGen Effect

/-- A collector stays orderly, whatever has an effect on it. -/
theorem Effects.orderly {collecting next : Collecting} (effects : Effects collecting next)
    (orderly : collecting.collector.Orderly) : next.collector.Orderly := by
  induction effects with
  | refl => exact orderly
  | tail _ effect ih => exact effect.orderly ih

/-- What every effect keeps holds after all of them. -/
theorem Effects.invariant {collecting next : Collecting} {invariant : Collecting → Prop}
    (effects : Effects collecting next) (holds : invariant collecting)
    (keeps : ∀ {before after}, Effect before after → invariant before → invariant after) :
    invariant next := by
  induction effects with
  | refl => exact holds
  | tail _ effect ih => exact keeps effect ih

/-- The number that the status reports grows by as many records as come. -/
theorem Effects.counts {collecting next : Collecting} (effects : Effects collecting next) :
    next.collector.ingested + collecting.ingested.length =
      collecting.collector.ingested + next.ingested.length := by
  -- Both numbers grow alike with every effect.
  induction effects with
  | refl => rfl
  | tail _ effect ih =>
    have counts := effect.counts
    omega

/-- A run of a collector that is orderly has only effects of these kinds. -/
theorem Run.effects {collecting next : Collecting} (run : Run collecting next)
    (orderly : collecting.collector.Orderly) : Effects collecting next := by
  -- The collector is orderly at every step, so each step is one of the effects.
  induction run with
  | refl => exact .refl
  | tail _ step ih => exact ih.tail (step.effect (ih.orderly orderly))

/-- A collector stays orderly, whatever happens. -/
theorem Run.orderly {collecting next : Collecting} (run : Run collecting next)
    (orderly : collecting.collector.Orderly) : next.collector.Orderly :=
  (run.effects orderly).orderly orderly

end Collecting

end Unified2
