import Unified2.ConcurrentCollector
import Unified2.Proofs.Collector

/-! What the operations of a collector can do when its calls overlap, and what is left of that as
long as no collection is started while a stop waits. -/

namespace Unified2

/-- To make work ready again ends none of it. -/
theorem Collection.task_rouse_eq_ended_iff {collection : Collection} :
    collection.rouse.task = .ended ↔ collection.task = .ended := by
  unfold rouse
  cases waits : collection.task <;> simp [waits]

/-- Only what the work waits for changes when it is made ready again. -/
theorem Collection.rouse_eq (collection : Collection) :
    collection.rouse = { collection with task := collection.rouse.task } := by
  unfold rouse
  cases collection.task <;> rfl

/-- The cursor stays the same one. -/
theorem Collection.tail_rouse (collection : Collection) :
    collection.rouse.tail = collection.tail := by
  rw [rouse_eq]

namespace ConcurrentCollector

variable {collector after : ConcurrentCollector} {store : FileStore} {now : Instant}
  {collection : Collection}

/-- The collector after a collection was started at an offset. -/
def started (collector : ConcurrentCollector) (path : String) (offset : Int) :
    ConcurrentCollector :=
  { collector with
    running := true, stopping := false, lastError := none
    collections := collector.collections ++ [{ tail := Tail.new path offset true }] }

/-- The collector with one more stop that waits. -/
def asked (collector : ConcurrentCollector) : ConcurrentCollector :=
  { collector with
    stopping := true
    collections := collector.collections.map Collection.rouse
    stops := collector.stops ++ [collector.latestIndex] }

/-- A request to start is refused while a collection runs and where there is no file, and starts
another collection otherwise. -/
theorem start_cases {path : String} {offset : Int} {answer : StartAnswer} {log : List LogRecord}
    (answered : collector.start store path offset = .ok (answer, after, log)) :
    (collector.running = true ∧ answer = .alreadyRunning ∧ after = collector ∧ log = []) ∨
    (collector.running = false ∧ store.isFile (FilePath.normalize path) = .ok false ∧
      answer = .noSuchFile path ∧ after = collector ∧ log = []) ∨
    (collector.running = false ∧ store.isFile (FilePath.normalize path) = .ok true ∧
      answer = .started path offset ∧ after = collector.started path offset) := by
  -- What is asked is the view, and what it answers decides whether there is another collection.
  unfold start at answered
  cases seen : collector.view.start store path offset with
  | error error => simp [seen, bind, Except.bind] at answered
  | ok outcome =>
  obtain ⟨given, changed, told⟩ := outcome
  -- The view is refused or started, and each of its three outcomes is one of ours.
  rcases Collector.start_cases seen with
    ⟨running, rfl, rfl, rfl⟩ | ⟨idle, missing, rfl, rfl, rfl⟩ | ⟨idle, there, rfl, rfl⟩
  · left
    simp only [seen, bind, Except.bind, pure, Except.pure, Except.ok.injEq, Prod.mk.injEq]
      at answered
    exact ⟨running, answered.1.symm, answered.2.1.symm, answered.2.2.symm⟩
  · right
    left
    simp only [seen, bind, Except.bind, pure, Except.pure, Except.ok.injEq, Prod.mk.injEq]
      at answered
    exact ⟨idle, missing, answered.1.symm, answered.2.1.symm, answered.2.2.symm⟩
  · right
    right
    simp only [seen, bind, Except.bind, pure, Except.pure, Except.ok.injEq, Prod.mk.injEq]
      at answered
    exact ⟨idle, there, answered.1.symm, answered.2.1.symm⟩

/-- A start that succeeded found nothing running, and another collection is there. -/
theorem of_start_eq_started {path : String} {offset : Int} {log : List LogRecord}
    (answered : collector.start store path offset = .ok (.started path offset, after, log)) :
    collector.running = false ∧ after = collector.started path offset := by
  rcases start_cases answered with ⟨-, refused, -⟩ | ⟨-, -, refused, -⟩ | ⟨idle, -, -, same⟩
  · cases refused
  · cases refused
  · exact ⟨idle, same⟩

/-- A collector that does not run starts at any offset of a file that is there. -/
theorem start_eq_ok (idle : collector.running = false) {path : String} {number : Nat}
    (found : store.fileNumber (FilePath.normalize path) = .ok number) (offset : Int) :
    ∃ log, collector.start store path offset =
      .ok (.started path offset, collector.started path offset, log) := by
  obtain ⟨log, seen⟩ := Collector.start_eq_ok
    (show collector.view.running = false from idle) found offset
  refine ⟨log, ?_⟩
  rw [start, seen]
  rfl

/-- The view after a start is that of a collector that was started. -/
theorem view_started (collector : ConcurrentCollector) (path : String) (offset : Int) :
    (collector.started path offset).view = collector.view.started path offset := by
  simp [view, seenWith, latest?, latestIndex, started, Collector.started]

/-- A request to start is answered as the view would answer it, and the view shows what became of
it. -/
theorem start_of_view {path : String} {offset : Int} {answer : StartAnswer} {changed : Collector}
    {log : List LogRecord}
    (answered : collector.view.start store path offset = .ok (answer, changed, log)) :
    ∃ after, collector.start store path offset = .ok (answer, after, log) ∧
      after.view = changed := by
  rcases Collector.start_cases answered with
    ⟨-, rfl, rfl, rfl⟩ | ⟨-, -, rfl, rfl, rfl⟩ | ⟨-, -, rfl, rfl⟩
  · exact ⟨collector, by rw [start, answered]; rfl, rfl⟩
  · exact ⟨collector, by rw [start, answered]; rfl, rfl⟩
  · exact ⟨collector.started path offset, by rw [start, answered]; rfl,
      collector.view_started path offset⟩

/-- A call of stop is answered at once while nothing runs, and waits otherwise. -/
theorem requestStop_cases {request : StopRequest}
    (requested : collector.requestStop = (request, after)) :
    (collector.running = false ∧ request = .answered .notRunning ∧ after = collector) ∨
    (collector.running = true ∧ request = .waits ∧ after = collector.asked) := by
  unfold requestStop at requested
  cases running : collector.running with
  | false =>
    left
    simpa [running, eq_comm] using requested
  | true =>
    right
    simpa [running, eq_comm, asked] using requested

/-- A stop goes on only once the work that it waits for has ended; then it fails as the work did, or
clears the flag. -/
theorem resumeStop_cases {call : Nat} {answer : Except PollError StopAnswer}
    {log : List LogRecord} (resumed : collector.resumeStop call = some (answer, after, log)) :
    ∃ index collection, collector.stops[call]? = some index ∧
      collector.collections[index]? = some collection ∧ collection.task = .ended ∧
      ((∃ error, collection.failure = some error ∧ answer = .error error ∧
          after = { collector with stops := collector.stops.eraseIdx call }) ∨
        (collection.failure = none ∧ answer = .ok .stopped ∧
          after = { collector with
            running := false, stops := collector.stops.eraseIdx call })) := by
  unfold resumeStop at resumed
  -- The stop and the collection that it waits for have to be there.
  cases called : collector.stops[call]? with
  | none => simp [called] at resumed
  | some index =>
  cases awaited : collector.collections[index]? with
  | none => simp [called, awaited] at resumed
  | some collection =>
  by_cases ended : collection.task = .ended
  · refine ⟨index, collection, rfl, awaited, ended, ?_⟩
    cases failed : collection.failure with
    | some error =>
      left
      have same : (Except.error error, { collector with
          stops := collector.stops.eraseIdx call }, []) = (answer, after, log) := by
        simpa [called, awaited, ended, failed] using resumed
      cases same
      exact ⟨error, rfl, rfl, rfl⟩
    | none =>
      right
      simp only [called, awaited, ended, failed, Option.bind_eq_bind, Option.bind_some, ne_eq,
        not_true_eq_false, if_false, pure, Option.some.injEq, Prod.mk.injEq] at resumed
      exact ⟨rfl, resumed.1.symm, resumed.2.1.symm⟩
  · simp [called, awaited, ended] at resumed

/-- A stop goes on as soon as the work that it waits for has ended, and if nothing failed it clears
the flag. -/
theorem resumeStop_eq {call index : Nat} (called : collector.stops[call]? = some index)
    (awaited : collector.collections[index]? = some collection)
    (ended : collection.task = .ended) (sound : collection.failure = none) :
    ∃ log, collector.resumeStop call = some (.ok .stopped,
      { collector with running := false, stops := collector.stops.eraseIdx call }, log) := by
  refine ⟨({ collector with stops := collector.stops.eraseIdx call }).view.resumeStop.2, ?_⟩
  -- All that is left to ask is whether the work failed.
  simp [resumeStop, called, awaited, ended, sound]
  rfl

/-- Work that shall not end polls with its cursor. -/
theorem pollOf?_eq (goesOn : collector.stopping = false) :
    collector.pollOf? collection store =
      (collector.seenBy collection).tail.map fun tail =>
        tail.poll store (some collector.batch) := by
  rw [pollOf?, goesOn, if_neg Bool.false_ne_true]

/-- A turn of work without a cursor polls nothing and ends the work. -/
theorem turn_without_tail (has : (collector.seenBy collection).tail = none) (index : Nat)
    (store : FileStore) (now : Instant) :
    ∃ changed : Collector, changed.tail = none ∧ changed.queue = collector.queue ∧
      changed.ingested = collector.ingested ∧
      (collector.turn index collection store now).1 =
        collector.moved index (collector.cursorOf collection) changed none := by
  cases wish : collector.stopping with
  | true =>
    refine ⟨(collector.seenBy collection).finish, by simp [Collector.finish, has], rfl, rfl, ?_⟩
    simp only [turn, pollOf?, wish, if_true, Option.bind_none]
  | false =>
    -- No wish to stop either: the work runs out of its loop for want of a cursor.
    refine ⟨{ collector.seenBy collection with task := .ended }, has, rfl, rfl, ?_⟩
    simp only [turn, pollOf?_eq wish, wish, has, Bool.false_eq_true, if_false, Option.map_none,
      Option.bind_none, Collector.turn]

/-- A turn of work whose cursor passes over corrupt frames ends the work because it shall end, puts
the records of a poll into the queue, or ends it because the file cannot be opened. -/
theorem turn_cases {tail : Tail} (has : (collector.seenBy collection).tail = some tail)
    (skips : tail.skipCorrupt = true) (index : Nat) (store : FileStore) (now : Instant) :
    let seen := collector.seenBy collection
    let cursor := collector.cursorOf collection
    let poll := tail.poll store (some collector.batch)
    (collector.stopping = true ∧
      (collector.turn index collection store now).1 =
        collector.moved index cursor seen.finish none) ∨
    (collector.stopping = false ∧ ∃ records task, poll.Brings tail records ∧ task ≠ .ended ∧
      (collector.turn index collection store now).1 =
        collector.moved index cursor (seen.gained poll.tail records task) none) ∨
    (collector.stopping = false ∧ ∃ error, tail.openReader store = .error error ∧
      poll.answer = .error (.file error) ∧ poll.tail = tail ∧
      (collector.turn index collection store now).1 =
        collector.moved index cursor (seen.failed error) poll.uncaught?) := by
  intro seen cursor poll
  cases wish : collector.stopping with
  | true =>
    -- Work that shall end makes no poll that could fail.
    left
    refine ⟨rfl, ?_⟩
    simp only [turn, pollOf?, wish, if_true, Option.bind_none]
    rfl
  | false =>
    right
    have polls : collector.pollOf? collection store = some poll := by
      rw [pollOf?_eq wish, has, Option.map_some]
    have turned : (collector.turn index collection store now).1 =
        collector.moved index cursor (seen.turn store now).1 poll.uncaught? := by
      simp only [turn, polls, wish, Option.bind_some, Bool.false_eq_true, if_false]
      rfl
    rcases Collector.turn_cases has skips store now with
      ⟨records, task, brings, goesOn, gained⟩ | ⟨error, refused, answered, stays, failed⟩
    · left
      -- A poll that brings records has not failed.
      have answered : poll.answer = .ok records := brings.answer_eq
      -- So there is no error that would leave the task with a failure.
      have caught : poll.uncaught? = none := by rw [Poll.uncaught?, answered]
      refine ⟨rfl, records, task, brings, goesOn, ?_⟩
      rw [turned, gained, caught]
      rfl
    · right
      refine ⟨rfl, error, refused, answered, stays, ?_⟩
      rw [turned, failed]

/-- To go on with work is nothing but waiting, unless the work has its turn. -/
theorem advance_cases {index : Nat} (found : collector.collections[index]? = some collection)
    (store : FileStore) (now : Instant) :
    (collection.task = .ready 0 ∧
      collector.advance index store now = collector.turn index collection store now) ∨
    (collection.task ≠ .ready 0 ∧ ((collector.advance index store now).1 = collector ∨
      ∃ task, task ≠ .ended ∧ collection.task ≠ .ended ∧
        (collector.advance index store now).1 = collector.wait index task)) := by
  unfold advance
  -- Ended work rests, due work has its turn, and of the others one tick or the deadline is tested.
  rcases waits : collection.task with _ | (_ | ticks) | deadline
  · exact .inr ⟨by simp, .inl (by simp [found, waits])⟩
  · exact .inl ⟨rfl, by simp [found, waits]⟩
  · exact .inr ⟨by simp, .inr ⟨.ready ticks, by simp, by simp, by simp [found, waits]⟩⟩
  · cases due : deadline.isDue now with
    | true => exact .inr ⟨by simp, .inr ⟨.ready 0, by simp, by simp, by simp [found, waits, due]⟩⟩
    | false => exact .inr ⟨by simp, .inl (by simp [found, waits, due])⟩

/-- Work that goes on leaves the stops and the wish to stop as they are. -/
theorem advance_keeps (collector : ConcurrentCollector) (index : Nat) (store : FileStore)
    (now : Instant) :
    (collector.advance index store now).1.stops = collector.stops ∧
      (collector.advance index store now).1.stopping = collector.stopping := by
  cases found : collector.collections[index]? with
  | none => simp [advance, found]
  | some collection =>
    rcases advance_cases found store now with ⟨-, turns⟩ | ⟨-, same | ⟨task, -, -, waits⟩⟩
    · rw [turns]
      exact ⟨rfl, rfl⟩
    · rw [same]
      exact ⟨rfl, rfl⟩
    · rw [waits]
      exact ⟨rfl, rfl⟩

/-- The view shows the latest collection. -/
theorem view_of_latest (latest : collector.latest? = some collection) :
    collector.view = collector.seenWith (some collection.tail) collection.task := by
  rw [view, latest]
  rfl

/-- A turn of the latest work that moves the latest cursor leaves the view as the work left it. -/
theorem view_moved (latest : collector.latest? = some collection) {changed : Collector}
    {tail : Tail} (has : changed.tail = some tail)
    (interval : changed.interval = collector.interval) (batch : changed.batch = collector.batch)
    (failure : Option PollError) :
    (collector.moved collector.latestIndex collector.latestIndex changed failure).view =
      changed := by
  -- The latest collection is still the latest, with what was put into it.
  have found : collector.collections[collector.latestIndex]? = some collection := latest
  -- Taken apart, the view agrees field by field: three are given, the others are shared.
  obtain ⟨_, _, _, _, _, _, _, _⟩ := changed
  cases has
  cases interval
  cases batch
  simp [view, seenWith, latest?, latestIndex, moved, share] at found ⊢
  simp [found]

/-- The view after waiting waits for something else. -/
theorem view_wait (latest : collector.latest? = some collection) (task : CollectorTask) :
    (collector.wait collector.latestIndex task).view = { collector.view with task } := by
  have found : collector.collections[collector.latestIndex]? = some collection := latest
  simp [view, seenWith, latest?, latestIndex, wait] at found ⊢
  simp [found]

/-- A turn starts no collection, so the latest one is the same. -/
@[simp] theorem latestIndex_moved (collector : ConcurrentCollector) (index cursor : Nat)
    (changed : Collector) (failure : Option PollError) :
    (collector.moved index cursor changed failure).latestIndex = collector.latestIndex := by
  simp [latestIndex, moved]

/-- To wait starts no collection. -/
@[simp] theorem latestIndex_wait (collector : ConcurrentCollector) (index : Nat)
    (task : CollectorTask) : (collector.wait index task).latestIndex = collector.latestIndex := by
  simp [latestIndex, wait]

/-- To be asked to end starts no collection. -/
@[simp] theorem latestIndex_asked (collector : ConcurrentCollector) :
    collector.asked.latestIndex = collector.latestIndex := by
  simp [latestIndex, asked]

/-- The latest collection after waiting is the same one, which waits for something else. -/
theorem latest?_wait (latest : collector.latest? = some collection) (task : CollectorTask) :
    (collector.wait collector.latestIndex task).latest? = some { collection with task } := by
  have found : collector.collections[collector.latestIndex]? = some collection := latest
  simp [latest?, latestIndex, wait] at found ⊢
  simp [found]

/-- The latest collection after a turn of its work that moved its cursor. -/
theorem latest?_moved (latest : collector.latest? = some collection) (changed : Collector)
    (failure : Option PollError) :
    (collector.moved collector.latestIndex collector.latestIndex changed failure).latest? =
      some { tail := changed.tail.getD collection.tail, task := changed.task,
             moves := some collector.latestIndex, failure } := by
  have found : collector.collections[collector.latestIndex]? = some collection := latest
  simp [latest?, latestIndex, moved, share] at found ⊢
  simp [found]

/-- A stop that begins to wait changes at most what the latest work waits for. -/
theorem view_asked (collector : ConcurrentCollector) :
    ∃ task, (task = .ended ↔ collector.view.task = .ended) ∧
      collector.asked.view = { collector.view with task } := by
  cases latest : collector.latest? with
  | none =>
    -- Without a collection there is nothing to make ready.
    refine ⟨.ended, ?_, ?_⟩ <;>
      simp_all [view, seenWith, latest?, latestIndex, asked]
  | some collection =>
    -- The task may change from parked to ready, and an ended one stays ended.
    refine ⟨collection.rouse.task, ?_, ?_⟩
    · rw [Collection.task_rouse_eq_ended_iff, view_of_latest latest]
      rfl
    · have found : collector.collections[collector.latestIndex]? = some collection := latest
      simp [view, seenWith, latest?, latestIndex, asked] at found ⊢
      simp [found, Collection.tail_rouse]

/-- Only the latest collection has work left, which moves its own cursor, and all stops that wait
do so for this work. -/
structure Serial (collector : ConcurrentCollector) : Prop where
  ended : ∀ index collection, collector.collections[index]? = some collection →
    index ≠ collector.latestIndex → collection.task = .ended
  own : ∀ collection, collector.latest? = some collection →
    collector.cursorOf collection = collector.latestIndex
  awaited : ∀ index ∈ collector.stops, index = collector.latestIndex

/-- The latest work sees what the view shows, since the cursor that it moves is its own. -/
theorem Serial.seenBy_latest (serial : collector.Serial)
    (latest : collector.latest? = some collection) :
    collector.seenBy collection = collector.view := by
  have found : collector.collections[collector.latestIndex]? = some collection := latest
  rw [seenBy, serial.own collection latest, found, collector.view_of_latest latest,
    Option.map_some]

/-- Where the latest work has ended, all work has. -/
theorem Serial.task_eq_ended (serial : collector.Serial) (idle : collector.view.task = .ended)
    {index : Nat} (found : collector.collections[index]? = some collection) :
    collection.task = .ended := by
  by_cases latest : index = collector.latestIndex
  · -- The view shows this very work.
    subst latest
    rw [view_of_latest found] at idle
    exact idle
  · exact serial.ended index collection found latest

/-- Whatever changes the latest collection alone leaves the collector serial. -/
theorem Serial.of_modify (serial : collector.Serial) {change : Collection → Collection}
    (collections : after.collections =
      collector.collections.modify collector.latestIndex change)
    (own : ∀ collection, collector.latest? = some collection →
      (change collection).moves.getD collector.latestIndex = collector.latestIndex)
    (stops : after.stops ⊆ collector.stops) : after.Serial := by
  -- There are as many collections as before, so the latest one is the same.
  have same : after.latestIndex = collector.latestIndex := by
    rw [latestIndex, latestIndex, collections, List.length_modify]
  refine ⟨?_, ?_, ?_⟩
  · intro index collection found other
    rw [same] at other
    rw [collections, List.getElem?_modify, Option.map_eq_map, Option.map_eq_some_iff] at found
    obtain ⟨before, there, rfl⟩ := found
    -- The change falls on the latest collection, and this is another.
    rw [if_neg (Ne.symm other)]
    exact serial.ended index before there other
  · intro collection found
    rw [latest?, same, collections, List.getElem?_modify, Option.map_eq_map,
      Option.map_eq_some_iff] at found
    obtain ⟨before, there, rfl⟩ := found
    rw [if_pos rfl, cursorOf, same]
    exact own before there
  · intro index waits
    rw [same]
    exact serial.awaited index (stops waits)

/-- The latest work waits for something else, with the cursor that it has. -/
theorem Serial.wait (serial : collector.Serial) (task : CollectorTask) :
    (collector.wait collector.latestIndex task).Serial :=
  serial.of_modify rfl (fun collection latest => serial.own collection latest)
    (List.Subset.refl _)

/-- Whatever leaves all collections as they are leaves the collector serial. -/
theorem Serial.of_collections (serial : collector.Serial)
    (collections : after.collections = collector.collections)
    (stops : after.stops ⊆ collector.stops) : after.Serial := by
  have same : after.collections = collector.collections.modify collector.latestIndex id := by
    rw [List.modify_id, collections]
  refine serial.of_modify same ?_ stops
  intro collection latest
  exact serial.own collection latest

/-- A stop that begins to wait does so for the latest work. -/
theorem Serial.asked (serial : collector.Serial) : collector.asked.Serial := by
  have same := collector.latestIndex_asked
  refine ⟨?_, ?_, ?_⟩
  · intro index collection found other
    rw [same] at other
    simp only [ConcurrentCollector.asked, List.getElem?_map, Option.map_eq_some_iff] at found
    obtain ⟨before, there, rfl⟩ := found
    exact Collection.task_rouse_eq_ended_iff.mpr (serial.ended index before there other)
  · intro collection found
    rw [latest?, same] at found
    simp only [ConcurrentCollector.asked, List.getElem?_map, Option.map_eq_some_iff] at found
    obtain ⟨before, there, rfl⟩ := found
    -- To be made ready does not change which cursor the work moves.
    have own := serial.own before there
    rw [cursorOf, same, Collection.rouse_eq]
    exact own
  · intro index waits
    rw [same]
    rcases List.mem_append.mp waits with earlier | new
    · exact serial.awaited index earlier
    · exact List.mem_singleton.mp new

/-- A start without a stop that waits leaves the collector serial, if no work is left. -/
theorem Serial.started (serial : collector.Serial) (idle : collector.view.task = .ended)
    (alone : collector.stops = []) (path : String) (offset : Int) :
    (collector.started path offset).Serial := by
  have last : (collector.started path offset).latestIndex = collector.collections.length := by
    simp [latestIndex, ConcurrentCollector.started]
  refine ⟨?_, ?_, ?_⟩
  · intro index collection found other
    rw [last] at other
    -- It is one of those that were there before, and none of these has work left.
    have earlier : collector.collections[index]? = some collection := by
      simp only [ConcurrentCollector.started, List.getElem?_append] at found
      split at found
      · exact found
      · rw [List.getElem?_singleton, if_neg (by omega)] at found
        cases found
    exact serial.task_eq_ended idle earlier
  · intro collection found
    rw [latest?, last] at found
    -- The new collection moves the cursor it came with, as no other was named to it.
    have new : collection = { tail := Tail.new path offset true } := by
      simpa [ConcurrentCollector.started, eq_comm] using found
    rw [cursorOf, new]
    rfl
  · intro index waits
    -- Here it matters that no stop waits: it would wait for work that is no longer the latest.
    simp [ConcurrentCollector.started, alone] at waits

/-- A collector that was made has started nothing yet, and no stop waits. -/
theorem of_new_eq_ok {interval : Binary64} {capacity : Option Int} {batch : Int}
    (made : new interval capacity batch = .ok collector) :
    collector.collections = [] ∧ collector.stops = [] ∧
      Collector.new interval capacity batch = .ok collector.view := by
  unfold new at made
  -- Only the queue can refuse, and the view is made of the same queue.
  cases queued : DropQueue.ofCapacity capacity with
  | error error => simp [queued, bind, Except.bind] at made
  | ok queue =>
    simp only [queued, bind, Except.bind, pure, Except.pure, Except.ok.injEq] at made
    subst made
    refine ⟨rfl, rfl, ?_⟩
    simp [Collector.new, queued, bind, Except.bind, pure, Except.pure, view, seenWith, latest?]

/-- A collector that was made is serial. -/
theorem serial_of_new {interval : Binary64} {capacity : Option Int} {batch : Int}
    (made : new interval capacity batch = .ok collector) : collector.Serial := by
  obtain ⟨nothing, noStop, -⟩ := of_new_eq_ok made
  refine ⟨?_, ?_, ?_⟩
  · intro index collection found
    simp [nothing] at found
  · intro collection latest
    simp [latest?, nothing] at latest
  · intro index waits
    simp [noStop] at waits

end ConcurrentCollector

end Unified2
