import Unified2.Proofs.Collecting.Step

/-! A collection ends by itself only if its first turn cannot open the file. The failure is kept as
the last error, except for an offset that is too wide for a file: that one leaves no trace. -/

namespace Unified2

namespace Collecting

/-- How a collection goes as long as nobody stops it. -/
inductive Course (collecting : Collecting) (path : String) (offset : Int) : Prop
  /-- Its first turn is to come. -/
  | waiting (running : collecting.collector.running = true)
      (unpolled : collecting.polls = [])
      (has : collecting.collector.tail = some (Tail.new path offset true))
      (noNul : (FilePath.normalize path).contains '\x00' = false)
      (well : collecting.collector.lastError = none)
  /-- It has the file open, and keeps it open. -/
  | reading (running : collecting.collector.running = true) {tail : Tail}
      (has : collecting.collector.tail = some tail) (opened : tail.reader ≠ none)
  /-- Its first turn could not open the file. -/
  | failed (idle : collecting.collector.running = false) {poll : Poll} {error : FileError}
      (once : collecting.polls = [poll]) (answered : poll.answer = .error (.file error))
      (told : collecting.collector.lastError =
        if error.fault?.isSome then some error.message else none)
      (numbered : error.fault?.isSome = true ∨ error = .offsetTooWide ∧
        (offset < -FileReader.offsetLimit ∨ FileReader.offsetLimit ≤ offset))

/-- The latest collection goes on like this, unless it was stopped. -/
def OnCourse (collecting : Collecting) : Prop :=
  ∀ path offset, collecting.latest? = some (path, offset) →
    collecting.wasStopped = false → collecting.Course path offset

variable {collecting next : Collecting} {path : String} {offset : Int}

/-- A fetch changes nothing about the course of a collection. -/
theorem Course.fetched (course : collecting.Course path offset) (limit : Option Int) :
    Course (collecting.after (collecting.collector.fetch limit).2
      [.fetched (collecting.collector.fetch limit).1]) path offset := by
  have same : (collecting.after (collecting.collector.fetch limit).2
      [.fetched (collecting.collector.fetch limit).1]).polls = collecting.polls := by
    simp [polls_after, Happening.isStart, Happening.poll?]
  -- The queue is all that a fetch changes.
  cases course with
  | waiting running unpolled has noNul well =>
    exact .waiting running (same.trans unpolled) has noNul well
  | reading running has opened => exact .reading running has opened
  | failed idle once answered told numbered =>
    exact .failed idle (same.trans once) answered told numbered

/-- A turn that cannot open the file is the first one of its collection, and ends it. -/
theorem Course.fails (course : collecting.Course path offset)
    (running : collecting.collector.running = true) {tail : Tail} {poll : Poll} {error : FileError}
    (has : collecting.collector.tail = some tail)
    (refused : tail.openReader collecting.files = .error error)
    (answered : poll.answer = .error (.file error)) :
    Course (collecting.after (collecting.collector.failed error) [.polled poll]) path offset := by
  obtain ⟨closed, notOpened⟩ := Tail.of_openReader_eq_error refused
  cases course with
  | waiting _ unpolled hadToo noNul well =>
    -- There was no error before, so this one decides what is remembered.
    cases has.symm.trans hadToo
    refine .failed rfl ?_ answered ?_ (FileReader.openAt_eq_error noNul notOpened)
    · simp [polls_after, unpolled, Happening.isStart, Happening.poll?]
    · simp [Collector.failed, well]
  | reading _ hadToo opened =>
    -- A file that is open needs not be opened again.
    cases has.symm.trans hadToo
    exact absurd closed opened
  | failed idle =>
    -- After a failure there are no more turns.
    simp [idle] at running

/-- What happens to a collection that nobody stopped happens to one that was on its course. -/
theorem OnCourse.before (onCourse : collecting.OnCourse) {collector : Collector}
    {happening : Happening} (goesOn : happening.isStart = false)
    (latest : (collecting.after collector [happening]).latest? = some (path, offset))
    (unstopped : (collecting.after collector [happening]).wasStopped = false) :
    collecting.Course path offset ∧ happening.isStop = false := by
  -- The latest start is still the same, and there was no stop since.
  have noStart : happening.start? = none := by
    cases happening with
    | started path offset => simp [Happening.isStart] at goesOn
    | _ => rfl
  rw [latest?_after, noStart, Option.none_or] at latest
  rw [wasStopped_after, goesOn, if_neg Bool.false_ne_true, Bool.or_eq_false_iff] at unstopped
  exact ⟨onCourse path offset latest unstopped.1, unstopped.2⟩

/-- Every effect keeps the latest collection on its course. -/
theorem OnCourse.of_effect (onCourse : collecting.OnCourse) (effect : Effect collecting next) :
    next.OnCourse := by
  intro path offset latest unstopped
  cases effect with
  | still files now same =>
    -- What the collector waits for is no part of the course.
    cases onCourse path offset latest unstopped with
    | waiting running unpolled has noNul well => exact .waiting running unpolled has noNul well
    | reading running has opened => exact .reading running has opened
    | failed idle once answered told numbered => exact .failed idle once answered told numbered
  | @started idle asked there given =>
    -- The file was there a moment ago, so its path is one that can be opened.
    have same : (asked, given) = (path, offset) := by simpa [Happening.start?] using latest
    cases same
    refine .waiting rfl ?_ rfl (FileStore.noNul_of_isFile there) rfl
    simp [polls_after, Happening.isStart]
  | stopped running =>
    -- This is the stop that there was not.
    obtain ⟨-, notStopped⟩ := onCourse.before rfl latest unstopped
    cases notStopped
  | gained running has polled brings goesOn => exact .reading running rfl brings.opened
  | failed running has polled refused answered stays =>
    exact (onCourse.before rfl latest unstopped).1.fails running has refused answered
  | fetched limit => exact (onCourse.before rfl latest unstopped).1.fetched limit

/-- A collection that ended although nobody stopped it ended with its first poll, which could not
open the file. The failure is the last error, unless the offset that it was started at is too wide
for a file: then there is no last error. -/
theorem failure_is_last_error {interval : Binary64} {capacity : Option Int} {batch : Int}
    {collector : Collector} (made : Collector.new interval capacity batch = .ok collector)
    {files : FileStore} {now : Instant} {collecting : Collecting}
    (run : Run { files, now, collector } collecting) {path : String} {offset : Int}
    (latest : collecting.latest? = some (path, offset))
    (unstopped : collecting.wasStopped = false)
    (ended : collecting.collector.task = .ended) :
    collecting.collector.running = false ∧
      ∃ poll error, collecting.polls = [poll] ∧ poll.answer = .error (.file error) ∧
        (error ≠ .offsetTooWide → collecting.collector.lastError = some error.message) ∧
        (error = .offsetTooWide → collecting.collector.lastError = none ∧
          (offset < -FileReader.offsetLimit ∨ FileReader.offsetLimit ≤ offset)) := by
  -- At first there is no collection whose course could be asked for.
  have orderly := Collector.orderly_of_new made
  have unstarted : OnCourse { files, now, collector } := by
    intro path offset started
    cases started
  have onCourse : collecting.OnCourse :=
    (run.effects orderly).invariant unstarted fun effect kept => OnCourse.of_effect kept effect
  have idle : collecting.collector.running = false := by
    have same := (Run.orderly run orderly).running_iff
    simpa [ended] using same
  refine ⟨idle, ?_⟩
  -- Of the three courses only the failure is one that does not run.
  cases onCourse path offset latest unstopped with
  | waiting running => simp [idle] at running
  | reading running => simp [idle] at running
  | @failed _ poll error once answered told numbered =>
    refine ⟨poll, error, once, answered, ?_, ?_⟩
    · intro notWide
      have known := numbered.resolve_right fun wide => notWide wide.1
      rw [told, if_pos known]
    · rintro rfl
      exact ⟨told, (numbered.resolve_left Bool.false_ne_true).2⟩

/-- A negative offset is the last error. -/
theorem failure_is_last_error_of_negative_offset :
    let files : FileStore := { nodes := [(["log"], .file 0)], contents := [[]] }
    let collector : Collector :=
      { interval := .finite false 0, batch := 1, queue := { capacity := some 1 } }
    let fresh : Collecting := { files, now := Instant.start, collector }
    let begun := fresh.after (collector.started "log" (-1)) [.started "log" (-1)]
    let collecting := begun.ticked
    Run fresh collecting ∧ collecting.latest? = some ("log", -1) ∧
      collecting.wasStopped = false ∧ collecting.collector.task = .ended ∧
      ∃ poll error, collecting.polls = [poll] ∧ poll.answer = .error (.file error) ∧
        collecting.collector.lastError = some error.message := by
  intro files collector fresh begun collecting
  have made : Collector.new (.finite false 0) (some 1) 1 = .ok collector := by rfl
  obtain ⟨log, answered⟩ := Collector.start_eq_ok (show collector.running = false from rfl)
    (show files.fileNumber (FilePath.normalize "log") = .ok 0 by cbv) (-1)
  have starts : Step fresh begun := @Step.start fresh _ _ _ _ _ answered
  have run : Run fresh collecting := (Relation.ReflTransGen.single starts).tail (.tick _)
  have latest : collecting.latest? = some ("log", -1) := by cbv
  have unstopped : collecting.wasStopped = false := by cbv
  have ended : collecting.collector.task = .ended := by cbv
  obtain ⟨-, poll, error, once, failed, remembered, forgotten⟩ :=
    failure_is_last_error made run latest unstopped ended
  refine ⟨run, latest, unstopped, ended, poll, error, once, failed, remembered ?_⟩
  -- The offset is not too wide.
  intro tooWide
  exact absurd (forgotten tooWide).2 (by decide)

/-- A collection that starts at an offset of no file ends at once, and there is no last error. -/
theorem offset_too_wide_is_no_last_error :
    let files : FileStore := { nodes := [(["log"], .file 0)], contents := [[]] }
    let collector : Collector :=
      { interval := .finite false 0, batch := 1, queue := { capacity := some 1 } }
    let fresh : Collecting := { files, now := Instant.start, collector }
    let begun := fresh.after (collector.started "log" FileReader.offsetLimit)
      [.started "log" FileReader.offsetLimit]
    let collecting := begun.ticked
    Run fresh collecting ∧ collecting.latest? = some ("log", FileReader.offsetLimit) ∧
      collecting.wasStopped = false ∧ collecting.collector.task = .ended ∧
      collecting.collector.running = false ∧ collecting.collector.lastError = none := by
  intro files collector fresh begun collecting
  obtain ⟨log, answered⟩ := Collector.start_eq_ok (show collector.running = false from rfl)
    (show files.fileNumber (FilePath.normalize "log") = .ok 0 by cbv) FileReader.offsetLimit
  have starts : Step fresh begun := @Step.start fresh _ _ _ _ _ answered
  have run : Run fresh collecting := (Relation.ReflTransGen.single starts).tail (.tick _)
  exact ⟨run, by cbv, by cbv, by cbv, by cbv, by cbv⟩

end Collecting

end Unified2
