import Unified2.Proofs.Collecting.Accounts
import Unified2.Proofs.Concurrent.Step

/-! Every record that a collector takes out of a file is fetched, waits or is dropped, however its
calls overlap. What its cursor counted is what was ingested since the latest start, unless that
start came while a stop waited. -/

namespace Unified2

namespace Collecting

/-- The books speak of the queue, of the count and of what happened, and of nothing else. -/
theorem Accounts.of_books {collecting other : Collecting} {capacity : Option Nat}
    (accounts : collecting.Accounts capacity)
    (queue : other.collector.queue = collecting.collector.queue)
    (count : other.collector.ingested = collecting.collector.ingested)
    (history : other.history = collecting.history) : other.Accounts capacity := by
  have fetched : other.fetched = collecting.fetched := by
    rw [Collecting.fetched, fetches, history]
    rfl
  have ingested : other.ingested = collecting.ingested := by
    rw [Collecting.ingested, allPolls, history]
    rfl
  -- The balance and the order are the two laws that look into the history.
  refine ⟨queue ▸ accounts.capacity_eq, queue ▸ accounts.fits, ?_, ?_, queue ▸ accounts.decoded⟩
  · rw [fetched, queue, count]
    exact accounts.balanced
  · rw [fetched, queue, ingested]
    exact accounts.ordered

end Collecting

namespace Serving

/-- The books of a collector, however its calls overlap. -/
structure Books (serving : Serving) (capacity : Option Nat) : Prop where
  accounts : serving.seen.Accounts capacity
  counted : serving.collector.ingested = serving.seen.ingested.length
  /-- No cursor fails at a corrupt frame. -/
  skips : ∀ collection ∈ serving.collector.collections, collection.tail.skipCorrupt = true

variable {serving next : Serving} {capacity : Option Nat}

/-- What leaves the queue and the count alone and brings no record leaves the books in order. -/
theorem Books.unchanged (books : serving.Books capacity) {collector : ConcurrentCollector}
    {happenings : List Happening}
    (nothing : happenings = [] ∨ ∃ happening, happenings = [happening] ∧
      happening.ingested = [] ∧ happening.taken = [])
    (queue : collector.queue = serving.collector.queue)
    (count : collector.ingested = serving.collector.ingested)
    (skips : ∀ collection ∈ collector.collections, collection.tail.skipCorrupt = true) :
    (serving.after collector happenings).Books capacity := by
  rcases nothing with rfl | ⟨happening, rfl, noneCame, noneWent⟩
  · -- Nothing happened, so the history is the same one.
    have history : (serving.after collector []).seen.history = serving.seen.history :=
      List.append_nil _
    refine ⟨books.accounts.of_books queue count history, ?_, skips⟩
    rw [Collecting.ingested, Collecting.allPolls, history]
    exact count.trans books.counted
  · refine ⟨books.accounts.unchanged ⟨noneCame, noneWent⟩ queue count, ?_, skips⟩
    rw [seen_after, Collecting.ingested_after, noneCame, List.append_nil]
    exact count.trans books.counted

/-- A turn that moves a cursor which passes over corrupt frames moves no other. -/
theorem skips_moved {collector : ConcurrentCollector}
    (skips : ∀ collection ∈ collector.collections, collection.tail.skipCorrupt = true)
    (index cursor : Nat) {changed : Collector} (failure : Option PollError)
    (moved : ∀ tail, changed.tail = some tail → tail.skipCorrupt = true) :
    ∀ collection ∈ (collector.moved index cursor changed failure).collections,
      collection.tail.skipCorrupt = true := by
  -- What is found after the turn was found before, with a cursor that is the same or was moved.
  intro collection member
  obtain ⟨place, found⟩ := List.mem_iff_getElem?.mp member
  simp only [ConcurrentCollector.moved, List.getElem?_modify, Option.map_eq_map,
    Option.map_map, Option.map_eq_some_iff] at found
  obtain ⟨before, there, rfl⟩ := found
  have old := skips before (List.mem_of_getElem? there)
  simp only [Function.comp_apply]
  -- Four cases: this collection's cursor was moved or not, and its work had the turn or not.
  split <;> split <;> try exact old
  all_goals
    cases has : changed.tail with
    | none => exact old
    | some tail => exact moved tail has

/-- To wait moves no cursor, whichever collection it is that waits. -/
theorem skips_wait {collector : ConcurrentCollector}
    (skips : ∀ collection ∈ collector.collections, collection.tail.skipCorrupt = true)
    (index : Nat) (task : CollectorTask) :
    ∀ collection ∈ (collector.wait index task).collections,
      collection.tail.skipCorrupt = true := by
  intro collection member
  obtain ⟨place, found⟩ := List.mem_iff_getElem?.mp member
  simp only [ConcurrentCollector.wait, List.getElem?_modify, Option.map_eq_map,
    Option.map_eq_some_iff] at found
  obtain ⟨before, there, rfl⟩ := found
  have old := skips before (List.mem_of_getElem? there)
  -- With another task or with the same one, its cursor is the one it had.
  split <;> exact old

/-- A turn of any work keeps the books: what its poll brings goes into the queue and is counted. -/
theorem Books.turn (books : serving.Books capacity) (index : Nat) (collection : Collection) :
    (serving.after (serving.collector.turn index collection serving.files serving.now).1
      (serving.turned collection)).Books capacity := by
  have skipping : ∀ tail, (serving.collector.seenBy collection).tail = some tail →
      tail.skipCorrupt = true := by
    intro tail has
    -- The cursor that the work moves belongs to one of the collections, its own or a later one.
    obtain ⟨owner, there, rfl⟩ := Option.map_eq_some_iff.mp has
    exact books.skips owner (List.mem_of_getElem? there)
  cases has : (serving.collector.seenBy collection).tail with
  | none =>
    -- Without a cursor there is no poll, and the work ends.
    have quiet : serving.turned collection = [] ∨ ∃ happening,
        serving.turned collection = [happening] ∧ happening.ingested = [] ∧
          happening.taken = [] := by
      cases wish : serving.collector.stopping
      · exact .inl (by simp [turned, ConcurrentCollector.pollOf?, wish, has])
      · exact .inr ⟨.stopped, by simp [turned, wish], rfl, rfl⟩
    obtain ⟨changed, none, queue, count, same⟩ :=
      ConcurrentCollector.turn_without_tail has index serving.files serving.now
    rw [same]
    refine books.unchanged quiet queue count (skips_moved books.skips _ _ _ ?_)
    intro tail some
    rw [none] at some
    cases some
  | some tail =>
  rcases ConcurrentCollector.turn_cases has (skipping tail has) index serving.files serving.now with
    ⟨wish, turned⟩ | ⟨goesOn, records, task, brings, -, turned⟩ |
    ⟨goesOn, error, -, answered, stays, turned⟩
  · rw [turned]
    refine books.unchanged (.inr ⟨.stopped, by rw [Serving.turned, if_pos wish], rfl, rfl⟩)
      rfl rfl (skips_moved books.skips _ _ _ ?_)
    intro closed same
    obtain ⟨before, hadToo, rfl⟩ := Option.map_eq_some_iff.mp same
    exact skipping before hadToo
  · -- The view gains what the work gained, and the books ask for no cursor.
    rw [turned, turned_eq_polled goesOn has]
    refine ⟨(books.accounts.gained brings task).of_books rfl rfl rfl, ?_,
      skips_moved books.skips _ _ _ ?_⟩
    · rw [seen_after, Collecting.ingested_after, Happening.ingested, brings.records_eq,
        List.length_append, ← books.counted]
      rfl
    · intro moved same
      cases same
      exact brings.skips
  · -- A poll that failed brought nothing.
    rw [turned]
    have brought : (tail.poll serving.files (some serving.collector.batch)).records = [] :=
      Poll.records_of_error answered
    refine books.unchanged (.inr ⟨_, turned_eq_polled goesOn has, brought, rfl⟩) rfl rfl
      (skips_moved books.skips _ _ _ ?_)
    intro closed same
    obtain ⟨before, hadToo, rfl⟩ := Option.map_eq_some_iff.mp same
    exact skipping before hadToo

/-- Every step keeps the books. -/
theorem Books.of_step (books : serving.Books capacity) (step : Step serving next) :
    next.Books capacity := by
  cases step with
  | change files => exact ⟨books.accounts.of_books rfl rfl rfl, books.counted, books.skips⟩
  | elapse seconds => exact ⟨books.accounts.of_books rfl rfl rfl, books.counted, books.skips⟩
  | start answered =>
    rcases ConcurrentCollector.start_cases answered with
      ⟨-, rfl, rfl, -⟩ | ⟨-, -, rfl, rfl, -⟩ | ⟨-, -, rfl, rfl⟩
    · exact books.unchanged (.inl rfl) rfl rfl books.skips
    · exact books.unchanged (.inl rfl) rfl rfl books.skips
    · -- A start brings a cursor of its own, which passes over corrupt frames.
      refine books.unchanged (.inr ⟨_, rfl, rfl, rfl⟩) rfl rfl ?_
      intro collection member
      rcases List.mem_append.mp member with old | new
      · exact books.skips collection old
      · rw [List.mem_singleton.mp new]
        rfl
  | requestStop requested =>
    rcases ConcurrentCollector.requestStop_cases requested with ⟨-, -, rfl⟩ | ⟨-, -, rfl⟩
    · exact books.unchanged (.inl rfl) rfl rfl books.skips
    · refine books.unchanged (.inl rfl) rfl rfl ?_
      intro collection member
      obtain ⟨before, isIn, rfl⟩ := List.mem_map.mp member
      -- To be made ready moves no cursor.
      rw [Collection.tail_rouse]
      exact books.skips before isIn
  | resumeStop resumed =>
    obtain ⟨_, _, -, -, -, ⟨_, -, -, rfl⟩ | ⟨-, -, rfl⟩⟩ :=
      ConcurrentCollector.resumeStop_cases resumed
    · exact books.unchanged (.inl rfl) rfl rfl books.skips
    · exact books.unchanged (.inl rfl) rfl rfl books.skips
  | advance index =>
    cases found : serving.collector.collections[index]? with
    | none =>
      rw [advanced_of_ended fun collection there => by simp [found] at there]
      exact books
    | some collection =>
    rcases ConcurrentCollector.advance_cases found serving.files serving.now with
      ⟨due, turns⟩ | ⟨notDue, same | ⟨task, -, -, waits⟩⟩
    · rw [advanced, turns, happenings_of_due found due]
      exact books.turn index collection
    · rw [advanced, same, happenings_of_not_due found notDue]
      exact books.unchanged (.inl rfl) rfl rfl books.skips
    · rw [advanced, waits, happenings_of_not_due found notDue]
      exact books.unchanged (.inl rfl) rfl rfl (skips_wait books.skips index task)
  | fetch answered =>
    cases answered
    -- What is fetched leaves the queue, and nothing came.
    refine ⟨(books.accounts.fetched _).of_books rfl rfl rfl, ?_, books.skips⟩
    rw [seen_after, Collecting.ingested_after]
    exact books.counted.trans (congrArg List.length (List.append_nil _).symm)

/-- The books of a collector that was just made are empty, and every run keeps them. -/
theorem Run.books {interval : Binary64} {asked : Option Int} {batch : Int}
    {collector : ConcurrentCollector}
    (made : ConcurrentCollector.new interval asked batch = .ok collector) {files : FileStore}
    {now : Instant} (run : Run { files, now, collector } serving) :
    serving.Books (asked.map Int.toNat) := by
  -- The books are empty at first, and no step that a run can take is left out.
  induction run with
  | refl =>
    obtain ⟨nothing, -, viewed⟩ := ConcurrentCollector.of_new_eq_ok made
    refine ⟨Collecting.accounts_of_new viewed files now, ?_, ?_⟩
    · -- A collector that was made has counted nothing.
      show collector.view.ingested = 0
      rw [(Collector.of_new_eq_ok viewed).1]
    · intro collection member
      simp [nothing] at member
  | tail _ step books => exact books.of_step step

/-- As long as no collection is started while a stop waits, the latest cursor counted what was
ingested since its start. -/
theorem exists_latest_grown {before : Serving} (serial : before.collector.Serial)
    (orderly : before.seen.collector.Orderly) (alone : before.collector.stops = [])
    {path : String} {offset : Int} {begun : ConcurrentCollector} {log : List LogRecord}
    (answered : before.collector.start before.files path offset =
      .ok (.started path offset, begun, log))
    (later : SequentialRun (before.after begun [.started path offset]) serving)
    (onlyStart : serving.seen.starts = before.seen.starts + 1) :
    ∃ latest, serving.collector.latest? = some latest ∧
      latest.tail.tally.known + before.collector.ingested = serving.collector.ingested := by
  obtain ⟨effect, serialBegun⟩ := effect_start serial orderly answered fun _ => alone
  obtain ⟨effects, -⟩ := later.effects serialBegun (effect.orderly orderly)
  obtain ⟨-, rfl⟩ := ConcurrentCollector.of_start_eq_started answered
  -- The new cursor counted nothing yet, and every effect keeps its count in step.
  have begins : Collecting.Tallied
      (before.after (before.collector.started path offset) [.started path offset]).seen
      (before.seen.starts + 1) before.collector.ingested := by
    rw [seen_after, ConcurrentCollector.view_started]
    refine ⟨by simp [Happening.isStart], fun _ => ⟨_, rfl, ?_⟩⟩
    simp [Collector.started, Tail.new, Tally.known, ConcurrentCollector.view,
      ConcurrentCollector.seenWith]
  have tallied : serving.seen.Tallied (before.seen.starts + 1) before.collector.ingested :=
    effects.invariant begins fun effect kept => Collecting.Tallied.of_effect kept effect
  -- The cursor that is shown is that of the latest collection.
  obtain ⟨tail, has, grown⟩ := tallied.grown onlyStart
  obtain ⟨latest, isLatest, rfl⟩ := Option.map_eq_some_iff.mp has
  exact ⟨latest, isLatest, grown⟩

/-- However the calls of a collector overlap, what it ingested is what was fetched, what waits
within the capacity, and what was dropped; it is fetched in the order it came, and without a gap if
nothing was dropped. Any fetch is answered. Since the latest start as many records were ingested as
the cursor counted, as long as no start came while a stop waited. -/
theorem records_are_accounted_for {interval : Binary64} {capacity : Option Int} {batch : Int}
    {collector : ConcurrentCollector}
    (made : ConcurrentCollector.new interval capacity batch = .ok collector) {files : FileStore}
    {now : Instant} {serving : Serving} (run : Run { files, now, collector } serving) :
    let seen := serving.seen
    let queue := serving.collector.queue
    serving.collector.ingested =
        (seen.fetches.map fun fetch => fetch.records.length).sum + queue.size + queue.dropped ∧
      (∀ most, capacity = some most → (queue.size : Int) ≤ most) ∧
      serving.collector.ingested = seen.ingested.length ∧
      (seen.fetched ++ queue.records).Sublist seen.ingested ∧
      (queue.dropped = 0 → seen.fetched ++ queue.records = seen.ingested) ∧
      (∀ limit, ∃ members,
        (serving.collector.fetch limit).1.answer = .ok (.members members) ∧
          members.lookup "count" =
            some (.number (serving.collector.fetch limit).1.records.length)) ∧
      ∀ before path offset begun log, SequentialRun { files, now, collector } before →
        before.collector.stops = [] →
        before.collector.start before.files path offset =
          .ok (.started path offset, begun, log) →
        SequentialRun (before.after begun [.started path offset]) serving →
        seen.starts = before.seen.starts + 1 →
        ∃ latest, serving.collector.latest? = some latest ∧
          latest.tail.tally.event + latest.tail.tally.packet + latest.tail.tally.extraData =
            serving.collector.ingested - before.collector.ingested ∧
          before.collector.ingested ≤ serving.collector.ingested := by
  intro seen queue
  obtain ⟨-, -, viewed⟩ := ConcurrentCollector.of_new_eq_ok made
  have books := run.books made
  have accounts := books.accounts
  have balanced := accounts.balanced
  have sums : (seen.fetches.map fun fetch => fetch.records.length).sum = seen.fetched.length :=
    (List.length_flatMap ..).symm
  refine ⟨?_, ?_, books.counted, accounts.ordered, ?_, ?_, ?_⟩
  · rw [sums]
    exact balanced.symm
  · -- A capacity that was accepted is not negative.
    intro most limited
    have room : queue.size ≤ most.toNat :=
      accounts.fits most.toNat (by simp [accounts.capacity_eq, limited])
    have positive := (Collector.of_new_eq_ok viewed).2 most limited
    omega
  · -- As many records as came can only be all of them.
    intro noneDropped
    refine accounts.ordered.eq_of_length ?_
    rw [List.length_append, ← books.counted]
    have total : seen.fetched.length + queue.size + queue.dropped = serving.collector.ingested :=
      balanced
    rw [noneDropped] at total
    exact total
  · -- What is fetched waited, so it was decoded.
    intro limit
    refine Fetch.exists_answer fun record member => accounts.decoded record ?_
    exact List.take_subset _ _ member
  · -- The tally and the count both start anew with the latest collection.
    intro before path offset begun log earlier alone answered later onlyStart
    -- Here the steps have to be sequential: the tally is that of the cursor the view shows.
    obtain ⟨effects, serial⟩ := earlier.effects (ConcurrentCollector.serial_of_new made)
      (Collector.orderly_of_new viewed)
    have orderly := effects.orderly (Collector.orderly_of_new viewed)
    obtain ⟨latest, isLatest, total⟩ :=
      exists_latest_grown serial orderly alone answered later onlyStart
    unfold Tally.known at total
    exact ⟨latest, isLatest, by omega, by omega⟩

/-- Of three packets that one turn brings, a queue for one keeps the last and drops the others. -/
theorem records_are_accounted_for_in_small_queue :
    let packet : Bytes := Frame.encode ⟨2, List.replicate 28 7, by decide⟩
    let files : FileStore :=
      { nodes := [(["log"], .file 0)], contents := [packet ++ packet ++ packet] }
    let collector : ConcurrentCollector :=
      { interval := .finite false 0, batch := 3, queue := { capacity := some 1 } }
    let fresh : Serving := { files, now := Instant.start, collector }
    let begun := fresh.started "log" 0
    let serving := begun.advanced 0
    ConcurrentCollector.new (.finite false 0) (some 1) 3 = .ok collector ∧
      SequentialRun fresh serving ∧ serving.collector.ingested = 3 ∧
      serving.collector.queue.dropped = 2 ∧
      (serving.seen.fetches.map fun fetch => fetch.records.length).sum +
        serving.collector.queue.size = 1 ∧
      (∃ members, (serving.collector.fetch none).1.answer = .ok (.members members) ∧
        members.lookup "count" = some (.number 1)) ∧
      ∃ latest, serving.collector.latest? = some latest ∧
        latest.tail.tally.event + latest.tail.tally.packet + latest.tail.tally.extraData = 3 := by
  intro packet files collector fresh begun serving
  have made : ConcurrentCollector.new (.finite false 0) (some 1) 3 = .ok collector := by rfl
  have leads : files.fileNumber (FilePath.normalize "log") = .ok 0 := by cbv
  -- One start and one turn are the whole run.
  have turns : Sequential begun serving := sequential_advanced begun 0
  have run : SequentialRun fresh serving :=
    (Relation.ReflTransGen.single (sequential_started rfl rfl leads 0)).tail turns
  have came : serving.collector.ingested = 3 := by cbv
  have dropped : serving.collector.queue.dropped = 2 := by cbv
  have waits : (serving.collector.fetch none).1.records.length = 1 := by cbv
  obtain ⟨balanced, -, -, -, -, shown, tallied⟩ := records_are_accounted_for made run.run
  obtain ⟨members, given, counted⟩ := shown none
  obtain ⟨log, answered⟩ :=
    ConcurrentCollector.start_eq_ok (show collector.running = false from rfl) leads 0
  obtain ⟨latest, isLatest, grown, -⟩ :=
    tallied fresh "log" 0 _ log .refl rfl answered (.single turns) (by cbv)
  have nothing : fresh.collector.ingested = 0 := rfl
  rw [waits] at counted
  exact ⟨made, run, came, dropped, by omega, ⟨members, given, counted⟩, latest, isLatest, by omega⟩

/-- A start that is served while a stop waits leaves work which goes on although the collector does
not run. After the next start two collections bring records, and the cursor of the latest one counts
only its own: one packet, where two were ingested. -/
theorem overlapping_start_brings_uncounted_packet :
    let packet : Bytes := Frame.encode ⟨2, List.replicate 28 7, by decide⟩
    let files : FileStore :=
      { nodes := [(["log"], .file 0)], contents := [packet ++ packet] }
    let collector : ConcurrentCollector :=
      { interval := .finite false 0, batch := 1, queue := { capacity := some 9 } }
    let fresh : Serving := { files, now := Instant.start, collector }
    let before := (fresh.overlapped "log" 0).advanced 1
    let serving := ((before.started "log" 0).advanced 2).advanced 1
    ConcurrentCollector.new (.finite false 0) (some 9) 1 = .ok collector ∧ Run fresh before ∧
      before.collector.stops = [] ∧
      (∃ log, before.collector.start files "log" 0 =
        .ok (.started "log" 0, before.collector.started "log" 0, log)) ∧
      Run (before.started "log" 0) serving ∧
      serving.seen.starts = before.seen.starts + 1 ∧
      (serving.collector.latest?.map fun latest => latest.tail.tally.known) = some 1 ∧
      serving.collector.ingested - before.collector.ingested = 2 := by
  intro packet files collector fresh before serving
  have leads : files.fileNumber (FilePath.normalize "log") = .ok 0 := by cbv
  -- The second collection goes on behind the stop, and is ready again, as its batch was full.
  have run : Run fresh before := (run_overlapped rfl rfl leads 0).tail (.advance _ 1)
  have idle : before.collector.running = false := by cbv
  have answered := ConcurrentCollector.start_eq_ok idle leads 0
  have later : Run (before.started "log" 0) serving :=
    (Relation.ReflTransGen.single (.advance _ 2)).tail (.advance _ 1)
  have alone : before.collector.stops = [] := by cbv
  have once : serving.seen.starts = before.seen.starts + 1 := by cbv
  have counted :
      (serving.collector.latest?.map fun latest => latest.tail.tally.known) = some 1 := by
    cbv
  have came : serving.collector.ingested - before.collector.ingested = 2 := by cbv
  exact ⟨by rfl, run, alone, answered, later, once, counted, came⟩

end Serving

end Unified2
