import Unified2.Proofs.Collecting.Step
import Unified2.Proofs.ConcurrentCollector

/-! A collector whose calls overlap, among files that change and a clock that moves on. As long as
no collection is started while a stop waits, each of its steps has the effect of a collector that
serves one call after the other. -/

namespace Unified2

/-- A collector whose calls may overlap, with the files it reads, the time, and what it did. -/
structure Serving where
  files : FileStore
  now : Instant
  collector : ConcurrentCollector
  history : List Happening := []

namespace Serving

/-- What the status, the fetches and the history show of it. -/
def seen (serving : Serving) : Collecting where
  files := serving.files
  now := serving.now
  collector := serving.collector.view
  history := serving.history

/-- The collector changed, and something happened. -/
def after (serving : Serving) (collector : ConcurrentCollector) (happenings : List Happening) :
    Serving :=
  { serving with collector, history := serving.history ++ happenings }

/-- What is shown after a change is the view of the collector as it is then. -/
theorem seen_after (serving : Serving) (collector : ConcurrentCollector)
    (happenings : List Happening) :
    (serving.after collector happenings).seen = serving.seen.after collector.view happenings :=
  rfl

/-- What happens when the work of a collection has its turn: it ends because it shall, or polls. -/
def turned (serving : Serving) (collection : Collection) : List Happening :=
  if serving.collector.stopping then [.stopped]
  else ((serving.collector.pollOf? collection serving.files).map Happening.polled).toList

/-- What happens at the turn of work that shall not end is a poll. -/
theorem turned_eq_polled {serving : Serving} {collection : Collection} {tail : Tail}
    (goesOn : serving.collector.stopping = false)
    (has : (serving.collector.seenBy collection).tail = some tail) :
    serving.turned collection =
      [.polled (tail.poll serving.files (some serving.collector.batch))] := by
  rw [turned, goesOn, if_neg Bool.false_ne_true, ConcurrentCollector.pollOf?_eq goesOn, has]
  rfl

/-- What happens when the work of one of the collections goes on. -/
def happenings (serving : Serving) (index : Nat) : List Happening :=
  match serving.collector.collections[index]? with
  | none => []
  | some collection => if collection.task = .ready 0 then serving.turned collection else []

/-- The work of one of the collections goes on. -/
def advanced (serving : Serving) (index : Nat) : Serving :=
  serving.after (serving.collector.advance index serving.files serving.now).1
    (serving.happenings index)

/-- What can happen next. Between the two halves of a stop there can be any other steps. -/
inductive Step : Serving → Serving → Prop
  /-- The files become any others. -/
  | change (serving : Serving) (files : FileStore) : Step serving { serving with files }
  | elapse (serving : Serving) (seconds : Binary64) :
      Step serving { serving with now := serving.now.add seconds }
  | start {serving : Serving} {path : String} {offset : Int} {answer : StartAnswer}
      {collector : ConcurrentCollector} {log : List LogRecord}
      (answered : serving.collector.start serving.files path offset =
        .ok (answer, collector, log)) :
      Step serving (serving.after collector answer.happenings)
  | requestStop {serving : Serving} {request : StopRequest} {collector : ConcurrentCollector}
      (requested : serving.collector.requestStop = (request, collector)) :
      Step serving (serving.after collector [])
  | resumeStop {serving : Serving} {call : Nat} {answer : Except PollError StopAnswer}
      {collector : ConcurrentCollector} {log : List LogRecord}
      (resumed : serving.collector.resumeStop call = some (answer, collector, log)) :
      Step serving (serving.after collector [])
  /-- Work goes on, that of any collection. -/
  | advance (serving : Serving) (index : Nat) : Step serving (serving.advanced index)
  | fetch {serving : Serving} {limit : Option Int} {fetch : Fetch}
      {collector : ConcurrentCollector}
      (answered : serving.collector.fetch limit = (fetch, collector)) :
      Step serving (serving.after collector [.fetched fetch])

/-- Everything that can happen, in any order and any number of times. -/
abbrev Run : Serving → Serving → Prop := Relation.ReflTransGen Step

/-- A step that starts no collection while a stop waits. -/
structure Sequential (serving next : Serving) : Prop where
  step : Step serving next
  alone : next.seen.starts ≠ serving.seen.starts → serving.collector.stops = []

/-- Everything that can happen as long as every start that succeeds comes before a stop or after
it. Whatever else is called while a stop waits, also a start that is turned down, may be called. -/
abbrev SequentialRun : Serving → Serving → Prop := Relation.ReflTransGen Sequential

/-- Such runs are among everything that can happen. -/
theorem SequentialRun.run {serving next : Serving} (run : SequentialRun serving next) :
    Run serving next :=
  Relation.ReflTransGen.mono (fun _ _ => Sequential.step) _ _ run

/-- A collection was started at an offset. -/
def started (serving : Serving) (path : String) (offset : Int) : Serving :=
  serving.after (serving.collector.started path offset) [.started path offset]

/-- A stop began to wait. -/
def asked (serving : Serving) : Serving := serving.after serving.collector.asked []

/-- A stop that waited cleared the flag. -/
def cleared (serving : Serving) (call : Nat) : Serving :=
  serving.after { serving.collector with
    running := false, stops := serving.collector.stops.eraseIdx call } []

/-- A collector that does not run can start wherever there is a file. -/
theorem step_started {serving : Serving} {path : String} {number : Nat}
    (idle : serving.collector.running = false)
    (found : serving.files.fileNumber (FilePath.normalize path) = .ok number) (offset : Int) :
    Step serving (serving.started path offset) := by
  obtain ⟨log, answered⟩ := ConcurrentCollector.start_eq_ok idle found offset
  exact @Step.start serving _ _ _ _ _ answered

/-- A collector that runs can be asked to stop. -/
theorem step_asked {serving : Serving} (running : serving.collector.running = true) :
    Step serving serving.asked := by
  refine @Step.requestStop serving .waits _ ?_
  simp [ConcurrentCollector.requestStop, running, ConcurrentCollector.asked]

/-- Nothing that happens when work goes on is a start. -/
theorem countP_isStart_happenings (serving : Serving) (index : Nat) :
    (serving.happenings index).countP Happening.isStart = 0 := by
  -- All that can happen is a poll or an end.
  unfold happenings turned
  cases serving.collector.collections[index]? with
  | none => rfl
  | some collection =>
    by_cases due : collection.task = .ready 0 <;> cases serving.collector.stopping <;>
      cases serving.collector.pollOf? collection serving.files <;> simp [due, Happening.isStart]

/-- To go on with work starts no collection. -/
theorem starts_advanced (serving : Serving) (index : Nat) :
    (serving.advanced index).seen.starts = serving.seen.starts := by
  simp [advanced, after, seen, Collecting.starts, countP_isStart_happenings]

/-- To go on with work is in order while a stop waits. -/
theorem sequential_advanced (serving : Serving) (index : Nat) :
    Sequential serving (serving.advanced index) :=
  ⟨.advance serving index, fun more => absurd (starts_advanced serving index) more⟩

/-- To start a collection is in order if no stop waits. -/
theorem sequential_started {serving : Serving} {path : String} {number : Nat}
    (idle : serving.collector.running = false) (alone : serving.collector.stops = [])
    (found : serving.files.fileNumber (FilePath.normalize path) = .ok number) (offset : Int) :
    Sequential serving (serving.started path offset) :=
  ⟨step_started idle found offset, fun _ => alone⟩

/-- To ask for an end starts no collection. -/
theorem starts_asked (serving : Serving) : serving.asked.seen.starts = serving.seen.starts := by
  simp [asked, after, seen, Collecting.starts]

/-- To ask for an end is in order. -/
theorem sequential_asked {serving : Serving} (running : serving.collector.running = true) :
    Sequential serving serving.asked :=
  ⟨step_asked running, fun more => absurd (starts_asked serving) more⟩

/-- To go on with a stop is in order. -/
theorem sequential_resumed {serving : Serving} {call : Nat} {answer : Except PollError StopAnswer}
    {collector : ConcurrentCollector} {log : List LogRecord}
    (resumed : serving.collector.resumeStop call = some (answer, collector, log)) :
    Sequential serving (serving.after collector []) :=
  ⟨.resumeStop resumed, fun more => absurd (by simp [after, seen, Collecting.starts]) more⟩

/-- What happens when work that is due goes on is what happens at its turn. -/
theorem happenings_of_due {serving : Serving} {index : Nat} {collection : Collection}
    (found : serving.collector.collections[index]? = some collection)
    (due : collection.task = .ready 0) :
    serving.happenings index = serving.turned collection := by
  rw [happenings, found]
  exact if_pos due

/-- Nothing happens when work goes on that is not due. -/
theorem happenings_of_not_due {serving : Serving} {index : Nat} {collection : Collection}
    (found : serving.collector.collections[index]? = some collection)
    (notDue : collection.task ≠ .ready 0) : serving.happenings index = [] := by
  rw [happenings, found]
  exact if_neg notDue

/-- The work of a collection changes nothing if it has ended. -/
theorem advanced_of_ended {serving : Serving} {index : Nat}
    (ended : ∀ collection, serving.collector.collections[index]? = some collection →
      collection.task = .ended) : serving.advanced index = serving := by
  cases found : serving.collector.collections[index]? with
  | none => simp [advanced, happenings, ConcurrentCollector.advance, found, after]
  | some collection =>
    simp [advanced, happenings, ConcurrentCollector.advance, found, ended collection found, after]

/-- Only the latest collection of a serial collector has work that could go on. -/
theorem advanced_cases {serving : Serving} (serial : serving.collector.Serial) (index : Nat) :
    serving.advanced index = serving ∨
      index = serving.collector.latestIndex ∧
        ∃ collection, serving.collector.latest? = some collection := by
  by_cases isLatest : index = serving.collector.latestIndex
  · cases latest : serving.collector.latest? with
    | some collection => exact .inr ⟨isLatest, collection, rfl⟩
    | none =>
      -- There is no collection yet.
      refine .inl (advanced_of_ended fun collection found => ?_)
      rw [isLatest, ← ConcurrentCollector.latest?, latest] at found
      cases found
  · exact .inl (advanced_of_ended fun collection found =>
      serial.ended index collection found isLatest)

/-- The latest work at its turn, if it shall end, does so without a poll. -/
theorem advanced_of_stopping {serving : Serving} {collection : Collection}
    (serial : serving.collector.Serial) (latest : serving.collector.latest? = some collection)
    (wish : serving.collector.stopping = true) (ready : collection.task = .ready 0) :
    serving.advanced serving.collector.latestIndex =
      serving.after (serving.collector.moved serving.collector.latestIndex
        serving.collector.latestIndex serving.collector.view.finish none) [.stopped] := by
  have found : serving.collector.collections[serving.collector.latestIndex]? = some collection :=
    latest
  -- The work ends before it polls, and the cursor it closes is its own.
  have turns : (serving.collector.advance serving.collector.latestIndex serving.files
      serving.now).1 = serving.collector.moved serving.collector.latestIndex
        serving.collector.latestIndex serving.collector.view.finish none := by
    simp only [ConcurrentCollector.advance, found, ready, ConcurrentCollector.turn, wish,
      serial.own collection latest, serial.seenBy_latest latest, ConcurrentCollector.pollOf?,
      if_true, Option.bind_none]
  have happens : serving.happenings serving.collector.latestIndex = [.stopped] := by
    rw [happenings_of_due found ready, turned, if_pos wish]
  rw [advanced, turns, happens]

/-- To go on with the latest work has an effect of one of the known kinds, and leaves the collector
serial. -/
theorem advanced_latest {serving : Serving} (serial : serving.collector.Serial)
    (orderly : serving.seen.collector.Orderly) {collection : Collection}
    (latest : serving.collector.latest? = some collection) :
    let next := serving.advanced serving.collector.latestIndex
    Collecting.Effect serving.seen next.seen ∧ next.collector.Serial := by
  have found : serving.collector.collections[serving.collector.latestIndex]? = some collection :=
    latest
  have own := serial.own collection latest
  have view := serving.collector.view_of_latest latest
  have seenBy := serial.seenBy_latest latest
  have has : serving.collector.view.tail = some collection.tail := by rw [view]; rfl
  have task : serving.collector.view.task = collection.task := by rw [view]; rfl
  rcases ConcurrentCollector.advance_cases found serving.files serving.now with
    ⟨due, turns⟩ | ⟨notDue, same | ⟨other, goesOn, unended, waits⟩⟩
  · -- Work that has its turn runs.
    have running : serving.seen.collector.running = true :=
      orderly.running_iff.mpr (by simp [seen, task, due])
    have happens := happenings_of_due found due
    -- Whatever the turn leaves behind, it is put into the latest collection alone.
    have serialMoved : ∀ changed failure, (serving.collector.moved serving.collector.latestIndex
        serving.collector.latestIndex changed failure).Serial := by
      intro changed failure
      refine serial.of_modify (List.modify_modify_eq ..) ?_ (List.Subset.refl _)
      intro _ _
      rfl
    have cases := ConcurrentCollector.turn_cases (seenBy ▸ has)
      (orderly.skips collection.tail has) serving.collector.latestIndex serving.files serving.now
    simp only [own, seenBy] at cases
    simp only [advanced, seen_after, turns, happens]
    -- It ends as it was told to, brings records, or ends since the file cannot be opened.
    rcases cases with ⟨wish, turned⟩ | ⟨goesOn, records, next, brings, more, turned⟩ |
      ⟨goesOn, error, refused, answered, stays, turned⟩
    · have ended : serving.turned collection = [.stopped] := by rw [Serving.turned, if_pos wish]
      rw [turned, ended, ConcurrentCollector.view_moved latest
        (show serving.collector.view.finish.tail = some collection.tail.close by
          simp [Collector.finish, has]) rfl rfl]
      exact ⟨.stopped running, serialMoved _ _⟩
    · rw [turned, turned_eq_polled goesOn (seenBy ▸ has),
        ConcurrentCollector.view_moved latest rfl rfl rfl]
      exact ⟨.gained running has rfl brings more, serialMoved _ _⟩
    · rw [turned, turned_eq_polled goesOn (seenBy ▸ has), ConcurrentCollector.view_moved latest
        (show (serving.collector.view.failed error).tail = some collection.tail.close by
          simp [Collector.failed, Collector.finish, has]) rfl rfl]
      exact ⟨.failed running has rfl refused answered stays, serialMoved _ _⟩
  -- Without a turn nothing happens, and only what is waited for can differ.
  all_goals
    simp only [advanced, seen_after, happenings_of_not_due found notDue]
  · rw [same]
    exact ⟨by simpa [Collecting.after, seen] using Collecting.Effect.refl serving.seen, serial⟩
  · rw [waits, ConcurrentCollector.view_wait latest]
    refine ⟨?_, serial.wait _⟩
    have still := Collecting.Effect.waits serving.seen
      (show other = .ended ↔ serving.seen.collector.task = .ended by
        simp [seen, task, goesOn, unended])
    simpa [Collecting.after, seen] using still

/-- A step that leaves the view as it is has no effect. -/
theorem effect_of_view_eq {serving : Serving} {collector : ConcurrentCollector}
    (same : collector.view = serving.collector.view) :
    Collecting.Effect serving.seen (serving.after collector []).seen := by
  have unchanged : (serving.after collector []).seen = serving.seen := by
    simp [seen, after, same]
  rw [unchanged]
  exact .refl serving.seen

/-- A start while no stop waits has the effect of a start, if it succeeds. -/
theorem effect_start {serving : Serving} (serial : serving.collector.Serial)
    (orderly : serving.seen.collector.Orderly) {path : String} {offset : Int}
    {answer : StartAnswer} {collector : ConcurrentCollector} {log : List LogRecord}
    (answered : serving.collector.start serving.files path offset = .ok (answer, collector, log))
    (alone : answer = .started path offset → serving.collector.stops = []) :
    Collecting.Effect serving.seen (serving.after collector answer.happenings).seen ∧
      collector.Serial := by
  rcases ConcurrentCollector.start_cases answered with
    ⟨-, rfl, rfl, -⟩ | ⟨-, -, rfl, rfl, -⟩ | ⟨idle, there, rfl, rfl⟩
  · exact ⟨effect_of_view_eq rfl, serial⟩
  · exact ⟨effect_of_view_eq rfl, serial⟩
  · -- A start that succeeds finds all earlier work at its end, as nothing runs and no stop waits.
    have ended : serving.collector.view.task = .ended := orderly.task_eq_ended idle
    have effect := @Collecting.Effect.started serving.seen idle path there offset
    rw [seen_after, ConcurrentCollector.view_started]
    exact ⟨effect, serial.started ended (alone rfl) path offset⟩

/-- A call of stop that waits changes at most what the work waits for. -/
theorem effect_requestStop {serving : Serving} (serial : serving.collector.Serial)
    {request : StopRequest} {collector : ConcurrentCollector}
    (requested : serving.collector.requestStop = (request, collector)) :
    Collecting.Effect serving.seen (serving.after collector []).seen ∧ collector.Serial := by
  rcases ConcurrentCollector.requestStop_cases requested with ⟨-, -, rfl⟩ | ⟨running, -, rfl⟩
  · exact ⟨effect_of_view_eq rfl, serial⟩
  · obtain ⟨task, same, view⟩ := serving.collector.view_asked
    -- Parked work is made ready, which is the only thing that shows.
    have still := Collecting.Effect.waits serving.seen same
    have shown : (serving.after serving.collector.asked []).seen =
        { serving.seen with collector := { serving.collector.view with task } } := by
      simp [seen, after, view]
    rw [shown]
    exact ⟨still, serial.asked⟩

/-- A stop that goes on finds the flag cleared by the work that it waited for. -/
theorem effect_resumeStop {serving : Serving} (serial : serving.collector.Serial)
    (orderly : serving.seen.collector.Orderly) {call : Nat}
    {answer : Except PollError StopAnswer} {collector : ConcurrentCollector}
    {log : List LogRecord}
    (resumed : serving.collector.resumeStop call = some (answer, collector, log)) :
    Collecting.Effect serving.seen (serving.after collector []).seen ∧ collector.Serial := by
  obtain ⟨index, collection, called, awaited, ended, outcome⟩ :=
    ConcurrentCollector.resumeStop_cases resumed
  have fewer : serving.collector.stops.eraseIdx call ⊆ serving.collector.stops :=
    List.eraseIdx_subset
  rcases outcome with ⟨error, -, -, rfl⟩ | ⟨-, -, rfl⟩
  · -- A failure is handed to the caller, and nothing but the call is taken away.
    exact ⟨effect_of_view_eq rfl, serial.of_collections rfl fewer⟩
  · -- It waited for the latest work, and a collector whose work has ended does not run.
    have latest : serving.collector.latest? = some collection := by
      rw [ConcurrentCollector.latest?, ← serial.awaited index (List.mem_of_getElem? called)]
      exact awaited
    -- The second clearing of the flag does nothing: this is where a start in between would show.
    have idle : serving.collector.running = false := by
      by_contra running
      rw [Bool.not_eq_false] at running
      have goesOn : serving.collector.view.task ≠ .ended := orderly.running_iff.mp running
      rw [serving.collector.view_of_latest latest] at goesOn
      exact goesOn ended
    refine ⟨effect_of_view_eq ?_, serial.of_collections rfl fewer⟩
    simp only [ConcurrentCollector.view, ConcurrentCollector.seenWith,
      ConcurrentCollector.latest?, ConcurrentCollector.latestIndex, idle]

/-- To go on with any work has an effect of one of the known kinds. -/
theorem effect_advanced {serving : Serving} (serial : serving.collector.Serial)
    (orderly : serving.seen.collector.Orderly) (index : Nat) :
    Collecting.Effect serving.seen (serving.advanced index).seen ∧
      (serving.advanced index).collector.Serial := by
  rcases advanced_cases serial index with same | ⟨rfl, collection, latest⟩
  · rw [same]
    exact ⟨.refl _, serial⟩
  · exact advanced_latest serial orderly latest

/-- Each step without a start while a stop waits has an effect of one of the known kinds, and leaves
the collector serial. -/
theorem Sequential.effect {serving next : Serving} (sequential : Sequential serving next)
    (serial : serving.collector.Serial) (orderly : serving.seen.collector.Orderly) :
    Collecting.Effect serving.seen next.seen ∧ next.collector.Serial := by
  have alone := sequential.alone
  cases sequential.step with
  | change files =>
    exact ⟨.still files serving.now (Iff.refl (serving.collector.view.task = .ended)), serial⟩
  | elapse seconds =>
    exact ⟨.still serving.files _ (Iff.refl (serving.collector.view.task = .ended)), serial⟩
  | start answered =>
    refine effect_start serial orderly answered ?_
    -- Only a start that succeeds adds to the starts, and such a step is alone by assumption.
    rintro rfl
    exact alone (by simp [seen_after, StartAnswer.happenings, Happening.isStart])
  | requestStop requested => exact effect_requestStop serial requested
  | resumeStop resumed => exact effect_resumeStop serial orderly resumed
  | advance index => exact effect_advanced serial orderly index
  | fetch answered =>
    cases answered
    exact ⟨.fetched _, serial.of_collections rfl (List.Subset.refl _)⟩

/-- A run without a start while a stop waits has only effects of the known kinds. -/
theorem SequentialRun.effects {serving next : Serving} (run : SequentialRun serving next)
    (serial : serving.collector.Serial) (orderly : serving.seen.collector.Orderly) :
    Collecting.Effects serving.seen next.seen ∧ next.collector.Serial := by
  -- Serial and orderly are carried along, since each step's effect needs both before it.
  induction run with
  | refl => exact ⟨.refl, serial⟩
  | tail _ sequential ih =>
    obtain ⟨effects, still⟩ := ih
    obtain ⟨effect, after⟩ := sequential.effect still (effects.orderly orderly)
    exact ⟨effects.tail effect, after⟩

/-- Two starts with a stop that waits from before the second until behind it. -/
def overlapped (serving : Serving) (path : String) (offset : Int) : Serving :=
  let stopping := (serving.started path offset).asked
  ((stopping.advanced stopping.collector.latestIndex).started path offset).cleared 0

/-- Nothing keeps a start from being served while a stop waits. -/
theorem run_overlapped {serving : Serving} {path : String} {number : Nat}
    (idle : serving.collector.running = false)
    (alone : serving.collector.stops = [])
    (found : serving.files.fileNumber (FilePath.normalize path) = .ok number) (offset : Int) :
    Run serving (serving.overlapped path offset) := by
  let begun := serving.started path offset
  let stopping := begun.asked
  let ended := stopping.advanced stopping.collector.latestIndex
  let again := ended.started path offset
  -- The work of the first collection ends at its next turn, without a poll.
  let closed : Collection :=
    { tail := (Tail.new path offset true).close, task := .ended,
      moves := some stopping.collector.latestIndex }
  have finished : ended.collector.running = false ∧
      ended.collector.stops = [stopping.collector.latestIndex] ∧
      ended.collector.collections[stopping.collector.latestIndex]? = some closed := by
    simp [ended, closed, stopping, begun, asked, started, after, advanced,
      ConcurrentCollector.advance, ConcurrentCollector.asked, ConcurrentCollector.started,
      ConcurrentCollector.turn, ConcurrentCollector.moved, ConcurrentCollector.seenBy,
      ConcurrentCollector.cursorOf, ConcurrentCollector.latestIndex, ConcurrentCollector.share,
      ConcurrentCollector.seenWith, ConcurrentCollector.pollOf?, Collection.rouse,
      Collector.finish, alone]
  obtain ⟨stopped, waits, behind⟩ := finished
  -- The stop that was asked for first goes on only now, with the second collection behind it.
  have resumes : Step again (again.cleared 0) := by
    have called : again.collector.stops[0]? = some stopping.collector.latestIndex := by
      rw [show again.collector.stops = _ from waits]
      rfl
    -- It still waits for the first collection, which is where it was.
    have awaited : again.collector.collections[stopping.collector.latestIndex]? = some closed :=
      List.getElem?_append_left (List.getElem?_eq_some_iff.mp behind).1 |>.trans behind
    obtain ⟨log, resumed⟩ := ConcurrentCollector.resumeStop_eq called awaited rfl rfl
    exact @Step.resumeStop again _ _ _ _ resumed
  -- Put together: start, ask, end of the work, start, and only then the second half of the stop.
  have first : Run serving stopping :=
    (Relation.ReflTransGen.single (step_started idle found offset)).tail (step_asked rfl)
  exact first.tail (.advance stopping _) |>.tail (step_started stopped found offset)
    |>.tail resumes

end Serving

end Unified2
