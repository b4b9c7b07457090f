import Unified2.Frame.Stream
import Unified2.Proofs.Collecting.Step
import Unified2.Proofs.Page

/-! How long reading takes: no loop tries to read more often than headers fit into the bytes left,
and once more, and no collector takes more turns than full batches of the smallest packets fit, and
one more. -/

namespace Unified2

/-- A stream gives the bytes behind its position, each of them once. -/
theorem Stream.draws : ByteSource.Draws Stream := by
  intro stream asked
  have behind : stream.ahead.length = stream.content.length - stream.position := List.length_drop
  have given := List.length_take_le' (stream.allowance asked) stream.ahead
  -- A read moves the position by what it gives.
  show stream.content.length - (stream.position + (stream.ahead.take _).length) +
    (stream.ahead.take _).length ≤ stream.content.length - stream.position
  omega

namespace Tail

variable {tail : Tail} {store : FileStore} {reader : FileReader}

/-- A poll ends within the bytes that its file has left. -/
theorem Used.endsWithin (used : tail.Used) (opened : tail.openReader store = .ok reader)
    (limit : Option Int) :
    tail.rule.EndsWithin limit (OpenFile.mk (store.content reader.number) reader)
      (reader.left (store.content reader.number) / Frame.headerLength + 1) := by
  -- However the cursor was used, nothing is ahead that was not fetched.
  have within := fetched_of_openReader used.fetched opened
  exact OpenFile.endsWithin_left (OpenFile.mk _ reader) within tail.rule limit

/-- The bytes left are those behind the cursor, unless the file was cut short while it was open. -/
theorem Used.left_eq (used : tail.Used) (opened : tail.openReader store = .ok reader)
    (uncut : tail.reader = none ∨ reader.fetched ≤ (store.content reader.number).length) :
    reader.left (store.content reader.number) =
      (store.content reader.number).length - reader.position := by
  refine FileReader.left_of_fetched_le (fetched_of_openReader used.fetched opened) ?_
  rcases uncut with closed | reaches
  · -- A file that was just opened has nothing ahead.
    rcases of_openReader_eq_ok opened with held | ⟨-, opensNow⟩
    · rw [closed] at held
      cases held
    · obtain ⟨-, -, number, -, rfl⟩ := FileReader.of_openAt_eq_ok opensNow
      exact .inr rfl
  · exact .inl reaches

end Tail

namespace Collector

variable {store : FileStore} {collector : Collector} {tail : Tail} {reader : FileReader}

/-- The collector after turns at these times, as far as it is ready for them. -/
def turnsAt (store : FileStore) : List Instant → Collector → Collector
  | [], collector => collector
  | now :: times, collector =>
    -- Between two turns time may pass, but the files stay as they are.
    if collector.task = .ready 0 then turnsAt store times (collector.turn store now).1
    else collector

/-- A collector that is not ready stays as it is. -/
theorem turnsAt_of_ne_ready (waits : collector.task ≠ .ready 0) (times : List Instant) :
    collector.turnsAt store times = collector := by
  cases times with
  | nil => rfl
  | cons now times => simp only [turnsAt, if_neg waits]

/-- A collector whose file does not open ends with its first turn. -/
theorem turnsAt_of_refused (ready : collector.task = .ready 0) (has : collector.tail = some tail)
    {error : FileError} (refused : tail.openReader store = .error error) (now : Instant)
    (times : List Instant) : (collector.turnsAt store (now :: times)).task = .ended := by
  -- The failure of its poll finishes the collection, and there is no turn after that.
  have ended : (collector.turn store now).1.task = .ended := by
    simp [turn, has, Tail.poll_of_refused refused, fail_fst, failed, finish]
  have waits : (collector.turn store now).1.task ≠ .ready 0 := by simp [ended]
  rw [turnsAt, if_pos ready, turnsAt_of_ne_ready waits, ended]

/-- A collector waits for its interval after as many turns as full batches of the smallest packets
fit into the bytes that remain, and one more. -/
theorem turnsAt_waits {times : List Instant} (ready : collector.task = .ready 0)
    (has : collector.tail = some tail) (opened : tail.openReader store = .ok reader)
    (skips : tail.skipCorrupt = true) (positive : 0 < collector.batch)
    (enough : ByteSource.remaining (OpenFile.mk (store.content reader.number) reader) /
      (Frame.leastKnown * collector.batch.toNat) < times.length) :
    ∃ now ∈ times,
      (collector.turnsAt store times).task = pause collector.interval now := by
  -- Every turn that calls for another one takes a full batch out of the bytes that remain.
  induction times generalizing collector tail reader with
  | nil => exact absurd enough (Nat.not_lt_zero _)
  | cons now times ih =>
    obtain ⟨_, sweep, loops⟩ := SweepRule.exists_loops OpenFile.draws tail.rule
      (some collector.batch.toNat) (OpenFile.mk (store.content reader.number) reader)
    have turned := turn_swept has opened skips positive loops now
    rw [turnsAt, if_pos ready]
    by_cases full : sweep.ending = .full
    · -- The later turns go on where the batch ended, with one turn and one batch less.
      rw [if_pos full] at turned
      obtain ⟨opens, goesOn⟩ := Tail.openReader_swept loops
      have brought :=
        (loops.records (show tail.rule.countUnknown = false from rfl) rfl).2.mp full
      have drawn := loops.remaining_of_full OpenFile.draws full
      rw [brought, Nat.mul_comm] at drawn
      have least : 0 < Frame.leastKnown * collector.batch.toNat :=
        Nat.mul_pos (by decide) (by omega)
      -- What remains lost one divisor at least, so the quotient lost one.
      have fewer : ByteSource.remaining sweep.source /
          (Frame.leastKnown * collector.batch.toNat) < times.length := by
        have quotient := Nat.div_le_div_right
          (c := Frame.leastKnown * collector.batch.toNat) drawn
        rw [Nat.add_div_right _ least] at quotient
        exact Nat.lt_of_lt_of_le quotient (Nat.le_of_lt_succ enough)
      rw [turned]
      obtain ⟨later, member, waits⟩ := ih
        (show (collector.gained (tail.swept sweep) _ (.ready 0)).task = .ready 0 from rfl) rfl
        opens skips positive (goesOn.symm ▸ fewer)
      exact ⟨later, List.mem_cons_of_mem now member, waits⟩
    · -- The file ended before the batch was full.
      rw [if_neg full] at turned
      rw [turned, turnsAt_of_ne_ready (pause_ne_ready _ _)]
      exact ⟨now, List.mem_cons_self, rfl⟩

end Collector

namespace Collecting

/-- The cursor of a collector, if it has one, was used as any cursor may be. -/
def CursorUsed (collecting : Collecting) : Prop :=
  ∀ tail, collecting.collector.tail = some tail → tail.Used

/-- A step uses the cursor, or makes a new one. -/
theorem CursorUsed.of_effect {collecting next : Collecting} (used : collecting.CursorUsed)
    (effect : Effect collecting next) : next.CursorUsed := by
  cases effect with
  | still files now same => exact used
  | @started idle path there offset =>
    rintro _ ⟨⟩
    exact .new path offset true
  | stopped running | failed running =>
    -- A collection that ends closes its file.
    intro tail same
    obtain ⟨before, has, rfl⟩ := Option.map_eq_some_iff.mp same
    exact .close (used before has)
  | gained running has polled brings goesOn =>
    rintro _ ⟨⟩
    rw [polled]
    exact .poll (used _ has) _ _
  | fetched limit => exact used

/-- A new collector has no cursor, so however it was run since then, its cursor was used as any
other. -/
theorem Run.cursorUsed {interval : Binary64} {capacity : Option Int} {batch : Int}
    {collector : Collector} (made : Collector.new interval capacity batch = .ok collector)
    {files : FileStore} {now : Instant} {collecting : Collecting}
    (run : Run { files, now, collector } collecting) : collecting.CursorUsed := by
  have fresh : CursorUsed { files, now, collector } := by
    rw [(Collector.of_new_eq_ok made).1]
    exact fun _ => (nomatch ·)
  exact (run.effects (Collector.orderly_of_new made)).invariant fresh fun effect kept =>
    CursorUsed.of_effect kept effect

/-- A collector that is ready has a cursor, and ends with the next turn or waits within as many
turns as full batches of the smallest packets fit into the bytes left, and one more. -/
theorem Run.turns_end {interval : Binary64} {capacity : Option Int} {batch : Int}
    {collector : Collector} (made : Collector.new interval capacity batch = .ok collector)
    {files : FileStore} {now : Instant} {collecting : Collecting}
    (run : Run { files, now, collector } collecting)
    (ready : collecting.collector.task = .ready 0) (positive : 0 < collecting.collector.batch) :
    ∃ tail, collecting.collector.tail = some tail ∧ tail.Used ∧
      (∀ error, tail.openReader collecting.files = .error error → ∀ now,
        (collecting.collector.turnsAt collecting.files [now]).task = .ended) ∧
      ∀ reader, tail.openReader collecting.files = .ok reader → ∀ times : List Instant,
        times.length = reader.left (collecting.files.content reader.number) /
          (Frame.leastKnown * collecting.collector.batch.toNat) + 1 →
        ∃ now ∈ times, (collecting.collector.turnsAt collecting.files times).task =
          Collector.pause collecting.collector.interval now := by
  -- Only a collector that runs is ready, and one that runs has a cursor.
  have orderly := Run.orderly run (Collector.orderly_of_new made)
  obtain ⟨tail, has⟩ := Option.ne_none_iff_exists'.mp
    (orderly.attached (orderly.running_iff.mpr (by simp [ready])))
  have used := Run.cursorUsed made run tail has
  refine ⟨tail, has, used, ?_, ?_⟩
  · intro error refused now
    exact Collector.turnsAt_of_refused ready has refused now []
  · intro reader opened times long
    -- The bytes left are those that remain to the first turn.
    have within := Tail.fetched_of_openReader used.fetched opened
    rw [← FileReader.remaining_eq_left within] at long
    exact Collector.turnsAt_waits ready has opened (orderly.skips tail has) positive (by omega)

end Collecting

open Collecting in
/-- Every reading loop ends within the bytes that its file or stream has left, whatever they are: a
poll, a page, and an iteration try to read at most once for every header that fits, and once more;
a collector that is ready waits or has ended after at most one turn for every full batch of the
smallest packets that fits, and one more. What was fetched of an open file counts as left even if
the file was cut short since then. -/
theorem loops_end_within_bytes_left :
    (∀ {tail : Tail}, tail.Used → ∀ {store : FileStore} {reader : FileReader},
      tail.openReader store = .ok reader →
        let content := store.content reader.number
        let file : OpenFile := { content, reader }
        (∀ limit, tail.poll store limit = tail.pollOf (tail.rule.sweep limit file) ∧
          tail.rule.EndsWithin limit file (reader.left content / Frame.headerLength + 1)) ∧
        tail.offset = reader.position ∧
        (tail.reader = none ∨ reader.fetched ≤ content.length →
          reader.left content = content.length - reader.position)) ∧
    (∀ {store : FileStore} {path : String} {offset : Int} {reader : FileReader},
      FileReader.openAt store path offset = .ok reader → ∀ limit : Int,
        let content := store.content reader.number
        let file : OpenFile := { content, reader }
        PageReader.page store path offset limit =
            .ok (PageReader.pageOf path (PageReader.rule.sweep (some limit) file)) ∧
          PageReader.rule.EndsWithin (some limit) file
            ((content.length - offset.toNat) / Frame.headerLength + 1)) ∧
    (∀ {file : OpenFile}, file.reader.ahead.length ≤ file.reader.fetched →
      SweepRule.plain.EndsWithin none file
          (file.reader.left file.content / Frame.headerLength + 1) ∧
        (file.reader.fetched ≤ file.content.length ∨ file.reader.ahead = [] →
          file.reader.left file.content = file.content.length - file.reader.position)) ∧
    (∀ stream : Stream, SweepRule.plain.EndsWithin none stream
      ((stream.content.length - stream.position) / Frame.headerLength + 1)) ∧
    ∀ {interval : Binary64} {capacity : Option Int} {batch : Int} {collector : Collector},
      Collector.new interval capacity batch = .ok collector →
      ∀ {files : FileStore} {now : Instant} {collecting : Collecting},
        Run { files, now, collector } collecting →
        collecting.collector.task = .ready 0 → 0 < collecting.collector.batch →
        ∃ tail, collecting.collector.tail = some tail ∧ tail.Used ∧
          (∀ error, tail.openReader collecting.files = .error error → ∀ now,
            (collecting.collector.turnsAt collecting.files [now]).task = .ended) ∧
          ∀ reader, tail.openReader collecting.files = .ok reader → ∀ times : List Instant,
            times.length = reader.left (collecting.files.content reader.number) /
              (Frame.leastKnown * collecting.collector.batch.toNat) + 1 →
            ∃ now ∈ times, (collecting.collector.turnsAt collecting.files times).task =
              Collector.pause collecting.collector.interval now := by
  refine ⟨?_, ?_, ?_, ?_, ?_⟩
  · intro tail used store reader opened content file
    exact ⟨fun limit => ⟨Tail.poll_eq_pollOf opened limit, used.endsWithin opened limit⟩,
      Tail.offset_eq_position opened, used.left_eq opened⟩
  · intro store path offset reader opened limit content file
    exact ⟨PageReader.page_eq_pageOf opened limit,
      FileReader.endsWithin_of_openAt opened PageReader.rule (some limit)⟩
  · intro file within
    exact ⟨file.endsWithin_left within SweepRule.plain none,
      FileReader.left_of_fetched_le within⟩
  · intro stream
    exact SweepRule.endsWithin_remaining Stream.draws SweepRule.plain none stream
  · intro interval capacity batch collector made files now collecting run ready positive
    exact Run.turns_end made run ready positive

open Collecting in
/-- Three empty frames of no known type take four tries to read, and two packets one by one take
three turns. -/
theorem loops_end_within_bytes_left_of_empty_frames_and_packets :
    let packet : Bytes := Frame.encode ⟨2, List.replicate 28 7, by decide⟩
    let empty : Bytes := Frame.encode ⟨9, [], by decide⟩
    let files : FileStore :=
      { nodes := [(["log"], .file 0), (["empty"], .file 1)]
        contents := [packet ++ packet, empty ++ empty ++ empty] }
    let opened : FileReader := { number := 1, fetched := 0 }
    let file : OpenFile := { content := files.content 1, reader := opened }
    let collector : Collector :=
      { interval := .finite false 0, batch := 1, queue := { capacity := some 1 } }
    let fresh : Collecting := { files, now := Instant.start, collector }
    let collecting := fresh.after (collector.started "log" 0) [.started "log" 0]
    let now := Instant.start
    (Tail.new "empty" 0 true).rule.EndsWithin (some 1) file 4 ∧
      PageReader.rule.EndsWithin (some 1) file 4 ∧
      Run fresh collecting ∧
      (collecting.collector.turnsAt files [now, now]).task = .ready 0 ∧
      (collecting.collector.turnsAt files [now, now, now]).task = .ready 2 := by
  intro packet empty files opened file collector fresh collecting now
  obtain ⟨polls, pages, -, -, collects⟩ := loops_end_within_bytes_left
  have opens : (Tail.new "empty" 0 true).openReader files = .ok opened := by cbv
  have openedAt : FileReader.openAt files "empty" 0 = .ok opened := by cbv
  have made : Collector.new (.finite false 0) (some 1) 1 = .ok collector := by rfl
  obtain ⟨log, answered⟩ := Collector.start_eq_ok (show collector.running = false from rfl)
    (show files.fileNumber (FilePath.normalize "log") = .ok 0 by cbv) 0
  have run : Run fresh collecting :=
    Relation.ReflTransGen.single (@Step.start fresh _ _ _ _ _ answered)
  obtain ⟨tail, has, -, -, turns⟩ := collects made run rfl (by decide)
  have first : tail = Tail.new "log" 0 true := by
    cases has
    rfl
  subst first
  have logOpens : (Tail.new "log" 0 true).openReader collecting.files =
      .ok { number := 0, fetched := 0 } := by cbv
  -- Seventy-two bytes are two batches of one packet, so three turns are enough.
  obtain ⟨later, -, waits⟩ := turns _ logOpens [now, now, now] (by cbv)
  have polled := ((polls (.new "empty" 0 true) opens).1 (some 1)).2
  have paged := (pages openedAt 1).2
  rw [show opened.left (files.content opened.number) / Frame.headerLength + 1 = 4 by cbv] at polled
  rw [show ((files.content opened.number).length - Int.toNat 0) / Frame.headerLength + 1 = 4 by
    cbv] at paged
  -- An interval that is over at once costs two ticks.
  exact ⟨polled, paged, run, by cbv, waits⟩

/-- A file that is cut short while it is open is read on as far as it was fetched: without a single
byte left in it behind the cursor there are three tries. -/
theorem cut_file_is_read_on :
    let packet : Bytes := Frame.encode ⟨2, List.replicate 28 7, by decide⟩
    let whole : FileStore :=
      { nodes := [(["log"], .file 0)], contents := [packet ++ packet ++ packet] }
    let cut : FileStore := { nodes := [(["log"], .file 0)], contents := [[]] }
    let reader : FileReader := { number := 0, fetched := 108, ahead := packet ++ packet }
    let tail : Tail :=
      { path := "log", start := 0, reader := some reader, tally := { packet := 1 } }
    let file : OpenFile := { content := cut.content 0, reader }
    ((Tail.new "log" 0 true).poll whole (some 1)).tail = tail ∧ tail.Used ∧
      tail.openReader cut = .ok reader ∧ file.content = [] ∧ tail.offset = 36 ∧
      tail.poll cut none = tail.pollOf (tail.rule.sweep none file) ∧
      tail.rule.Loops none file 3 (tail.rule.sweep none file) ∧
      ¬ tail.rule.EndsWithin none file
        ((file.content.length - reader.position) / Frame.headerLength + 1) := by
  intro packet whole cut reader tail file
  have begun : ((Tail.new "log" 0 true).poll whole (some 1)).tail = tail := by cbv
  have used : tail.Used := begun ▸ .poll (.new "log" 0 true) whole (some 1)
  have opens : tail.openReader cut = .ok reader := rfl
  -- Both packets that were fetched are passed before there is no further frame.
  have passed : (tail.rule.sweep none file).sightings.length = 2 := by cbv
  have ended : (tail.rule.sweep none file).ending = .shortfall .endOfStream := by cbv
  -- A loop with this end made one try more than it passed frames.
  have three : ∀ tries, tail.rule.Loops none file tries (tail.rule.sweep none file) →
      tries = 3 := by
    intro tries loops
    have counted := loops.tries_eq
    rw [passed, ended] at counted
    exact counted
  obtain ⟨tries, loops, -⟩ := SweepRule.endsWithin_remaining OpenFile.draws tail.rule none file
  refine ⟨begun, used, opens, rfl, by cbv, Tail.poll_eq_pollOf opens none,
    three tries loops ▸ loops, ?_⟩
  rintro ⟨other, again, within⟩
  have same := three other again
  subst same
  exact absurd within (by decide)

end Unified2
