import Unified2.Proofs.Collecting.Resumption
import Unified2.Proofs.Concurrent.LifeCycle
import Unified2.Proofs.Host

/-! Collections of one file that grows, each started once the one before it has stopped and where it
stopped, bring what a single collection of it brings. -/

namespace Unified2

namespace Serving

/-- A step while the file at a path only grows, in which a collection is started at that path only
and at the offset that the status tells. -/
structure Resumes (number : Nat) (path : String) (serving next : Serving) : Prop where
  step : Sequential serving next
  leads : next.files.fileNumber (FilePath.normalize path) = .ok number
  grows : serving.files.content number <+: next.files.content number
  goesOn : ∀ asked offset, next.history = serving.history ++ [.started asked offset] →
    asked = path ∧ serving.collector.status.lookup "offset" = some (.number offset)

/-- Collections of one file, each started where the one before it stopped. -/
abbrev Resumption (number : Nat) (path : String) : Serving → Serving → Prop :=
  Relation.ReflTransGen (Resumes number path)

variable {serving next later : Serving} {number : Nat} {path : String}

/-- The offset that the status tells is the one that is seen. -/
theorem lookup_offset_status (serving : Serving) :
    serving.collector.status.lookup "offset" = serving.seen.offset?.map FieldValue.number := by
  rw [ConcurrentCollector.status, Collector.lookup_offset_status, Collecting.offset?,
    Option.map_map]
  rfl

/-- The same offset is told exactly if the same offset is seen. -/
theorem offset?_eq_iff {other : Serving} :
    other.collector.status.lookup "offset" = serving.collector.status.lookup "offset" ↔
      other.seen.offset? = serving.seen.offset? := by
  rw [lookup_offset_status, lookup_offset_status]
  exact (Option.map_injective fun _ _ same => FieldValue.number.inj same).eq_iff

/-- Such collections are seen as those of a collector that serves one call after the other. -/
theorem Resumption.seen (resumption : Resumption number path serving later)
    (serial : serving.collector.Serial) (orderly : serving.seen.collector.Orderly) :
    Collecting.Resumption number path serving.seen later.seen := by
  have whole : Collecting.Resumption number path serving.seen later.seen ∧
      later.collector.Serial ∧ later.seen.collector.Orderly := by
    induction resumption with
    | refl => exact ⟨.refl, serial, orderly⟩
    | @tail before next _ resumes ih =>
      obtain ⟨earlier, serialBefore, orderlyBefore⟩ := ih
      -- The step has its effect, and what it starts is at the offset that was told, hence seen.
      obtain ⟨effect, serialNext⟩ := resumes.step.effect serialBefore orderlyBefore
      refine ⟨earlier.tail ⟨effect, resumes.leads, resumes.grows, ?_⟩, serialNext,
        effect.orderly orderlyBefore⟩
      intro asked offset same
      obtain ⟨right, told⟩ := resumes.goesOn asked offset same
      rw [lookup_offset_status] at told
      obtain ⟨seen, isSeen, equal⟩ := Option.map_eq_some_iff.mp told
      cases equal
      exact ⟨right, isSeen⟩
  exact whole.1

/-- To go on with work is a step of such collections. -/
theorem resumes_advanced (leads : serving.files.fileNumber (FilePath.normalize path) = .ok number)
    (index : Nat) : Resumes number path serving (serving.advanced index) := by
  refine ⟨sequential_advanced serving index, leads, List.prefix_refl _, ?_⟩
  intro asked offset same
  -- What happens then is no start.
  have started : serving.happenings index = [.started asked offset] := List.append_cancel_left same
  have none := serving.countP_isStart_happenings index
  rw [started] at none
  cases none

/-- What leaves the files alone and is no happening is a step of such collections. -/
theorem resumes_of_quiet {collector : ConcurrentCollector}
    (leads : serving.files.fileNumber (FilePath.normalize path) = .ok number)
    (quiet : Sequential serving (serving.after collector [])) :
    Resumes number path serving (serving.after collector []) := by
  refine ⟨quiet, leads, List.prefix_refl _, ?_⟩
  intro asked offset same
  have nothing : [] = [Happening.started asked offset] := List.append_cancel_left same
  cases nothing

/-- To ask for an end is a step of such collections. -/
theorem resumes_asked (leads : serving.files.fileNumber (FilePath.normalize path) = .ok number)
    (running : serving.collector.running = true) : Resumes number path serving serving.asked :=
  resumes_of_quiet leads (sequential_asked running)

/-- To go on with a stop is a step of such collections. -/
theorem resumes_resumed (leads : serving.files.fileNumber (FilePath.normalize path) = .ok number)
    {call : Nat} {answer : Except PollError StopAnswer} {collector : ConcurrentCollector}
    {log : List LogRecord}
    (resumed : serving.collector.resumeStop call = some (answer, collector, log)) :
    Resumes number path serving (serving.after collector []) :=
  resumes_of_quiet leads (sequential_resumed resumed)

/-- A start at the offset that is told is a step of such collections. -/
theorem resumes_started (leads : serving.files.fileNumber (FilePath.normalize path) = .ok number)
    (idle : serving.collector.running = false) (alone : serving.collector.stops = []) {offset : Int}
    (told : serving.collector.status.lookup "offset" = some (.number offset)) :
    Resumes number path serving (serving.started path offset) := by
  refine ⟨sequential_started idle alone leads offset, leads, List.prefix_refl _, ?_⟩
  intro asked given same
  have happened : [Happening.started path offset] = [.started asked given] :=
    List.append_cancel_left same
  cases happened
  exact ⟨rfl, told⟩

/-- To take turns one after the other is to go on with the latest work. -/
theorem exists_settleWithin (quiet : serving.Quiet) (turns : Nat)
    (leads : serving.files.fileNumber (FilePath.normalize path) = .ok number) :
    ∃ later, Resumption number path serving later ∧ later.files = serving.files ∧
      later.seen.starts = serving.seen.starts ∧ later.collector.view =
        (Collector.settleWithin serving.files serving.now turns serving.collector.view).1 := by
  -- Each turn that is taken is that of work which is ready.
  induction turns generalizing serving with
  | zero => exact ⟨serving, .refl, rfl, rfl, rfl⟩
  | succ turns ih =>
    by_cases due : serving.collector.view.task = .ready 0
    · -- A due turn is a tick, and a tick of due work is a turn.
      have turned : (serving.advanced serving.collector.latestIndex).seen =
          serving.seen.ticked := quiet.seen_advanced (by simpa [seen] using due)
      obtain ⟨later, resumption, still, none, settled⟩ :=
        @ih (serving.advanced serving.collector.latestIndex) (quiet.advanced _) leads
      refine ⟨later, .head (resumes_advanced leads _) resumption, still,
        none.trans (starts_advanced serving _), ?_⟩
      have first : (serving.advanced serving.collector.latestIndex).collector.view =
          (serving.collector.view.turn serving.files serving.now).1 := by
        have same := congrArg Collecting.collector turned
        simpa [Collecting.ticked, Collector.tick, seen, due] using same
      rw [settled, first, Collector.settleWithin, if_pos due]
      rfl
    · -- There is nothing left to do.
      refine ⟨serving, .refl, rfl, rfl, ?_⟩
      rw [Collector.settleWithin, if_neg due]

/-- To settle is to go on with the latest work a number of times. -/
theorem exists_settle (quiet : serving.Quiet)
    (leads : serving.files.fileNumber (FilePath.normalize path) = .ok number) :
    ∃ later, Resumption number path serving later ∧ later.files = serving.files ∧
      later.seen.starts = serving.seen.starts ∧
      later.collector.view = (serving.collector.view.settle serving.files serving.now).1 :=
  exists_settleWithin quiet _ leads

/-- A collector that was just started, with a history that begins then. -/
def begun (serving : Serving) (path : String) (offset : Int) : Serving :=
  { serving with
    collector := serving.collector.started path offset, history := [.started path offset] }

/-- It is seen as a collector that was just started. -/
theorem seen_begun (serving : Serving) (path : String) (offset : Int) :
    (serving.begun path offset).seen =
      Collecting.begun serving.files serving.now serving.collector.view path offset := by
  rw [Collecting.begun, ← ConcurrentCollector.view_started]
  rfl

/-- It is quiet if nothing ran and no stop waited before. -/
theorem quiet_begun (serving : Serving) (serial : serving.collector.Serial)
    (idle : serving.collector.view.task = .ended) (alone : serving.collector.stops = [])
    (path : String) (offset : Int) : (serving.begun path offset).Quiet := by
  refine ⟨serial.started idle alone path offset, ?_, alone, fun _ => rfl⟩
  rw [seen_begun]
  exact Collector.orderly_started ..

/-- One collection of the file as far as the frames reach brings them all. -/
theorem exists_uninterrupted {offset : Int} {frames : List Frame}
    (quiet : (serving.begun path offset).Quiet)
    (found : serving.files.fileNumber (FilePath.normalize path) = .ok number)
    (whole : (serving.files.content number).drop offset.toNat = frames.flatMap Frame.encode)
    (room : frames ≠ [] →
      0 ≤ offset ∧ offset < FileReader.offsetLimit ∧ 0 < serving.collector.batch) :
    ∃ alone, Resumption number path (serving.begun path offset) alone ∧
      alone.files = serving.files ∧ alone.seen.starts = 1 ∧
      alone.seen.offset? = some (offset + Frame.totalSize frames) := by
  by_cases none : frames = []
  · -- Without frames the collection is where it shall be.
    subst none
    refine ⟨_, .refl, rfl, rfl, ?_⟩
    rw [seen_begun]
    simp [Collecting.offset?, Collecting.begun, Collector.started, Tail.new, Tail.offset]
  -- A collection that settles reaches the end of the file, which is the end of the frames.
  obtain ⟨positive, representable, batch⟩ := room none
  obtain ⟨start, rfl⟩ := Int.eq_ofNat_of_zero_le positive
  have split : Frame.Splits ((serving.files.content number).drop start) frames [] := by
    have same : (serving.files.content number).drop start = frames.flatMap Frame.encode := whole
    exact same ▸ .of_flatMap frames
  -- There is nothing behind the frames, so what settles stands at their end.
  obtain ⟨after, follows, -, settled⟩ := Collector.settle_eq
    (show (serving.collector.view.started path start).task = .ready 0 from rfl) rfl
    (.new found split) (fun _ => by simpa [Tail.new, Tail.offset] using representable) rfl batch
    serving.now
  obtain ⟨alone, resumption, still, once, same⟩ := exists_settle quiet found
  refine ⟨alone, resumption, still, once, ?_⟩
  have started : (serving.begun path start).collector.view =
      serving.collector.view.started path start := serving.collector.view_started path start
  have has : alone.collector.view.tail = some after := by
    rw [same, started]
    exact congrArg Collector.tail settled
  rw [Collecting.offset?, show alone.seen.collector.tail = _ from has, Option.map_some,
    follows.behind.offset_eq, List.nil_append]

/-- Between calls of stop a collector runs exactly while it has work; else its file is closed, and
nothing of it moves until the next start. A request that is turned down changes nothing. Collections
of one file that grows, each started where the one before it stopped, bring what any other such
collections bring up to the same offset, and one of these is never interrupted. All of this is so as
long as no collection is started while a stop waits. -/
theorem life_cycle_is_sound_and_restartable {interval : Binary64} {capacity : Option Int}
    {batch : Int} {collector : ConcurrentCollector}
    (made : ConcurrentCollector.new interval capacity batch = .ok collector) {files : FileStore}
    {now : Instant} {serving : Serving} (run : SequentialRun { files, now, collector } serving) :
    serving.LifeCycle ∧
      (∀ host : Host, host.collector? = some serving.collector.view →
        ∀ name, name ≠ Collector.name → ∀ store path offset,
          let wrong : ToolAnswer := .text s!"wrong capability, expected {Collector.name}"
          host.call store (.startCollection name path offset) = (wrong, host, []) ∧
            host.call store (.stopCollection name) = (wrong, host, [])) ∧
      ∀ path offset after log number, serving.collector.stops = [] →
        serving.collector.start serving.files path offset =
          .ok (.started path offset, after, log) →
        serving.files.fileNumber (FilePath.normalize path) = .ok number →
        let begun : Serving :=
          { serving with collector := after, history := [.started path offset] }
        ∀ later, Resumption number path begun later →
          (∃ frames, later.seen.Covers number offset frames) ∧
          later.collector.ingested = serving.collector.ingested + later.seen.ingested.length ∧
          (∀ others alone, others.fileNumber (FilePath.normalize path) = .ok number →
            Resumption number path { begun with files := others } alone →
            alone.files.content number <+: later.files.content number ∨
              later.files.content number <+: alone.files.content number →
            alone.collector.status.lookup "offset" = later.collector.status.lookup "offset" →
            alone.seen.ingested = later.seen.ingested) ∧
          ∃ others alone, others.fileNumber (FilePath.normalize path) = .ok number ∧
            Resumption number path { begun with files := others } alone ∧
            alone.seen.starts = 1 ∧
            alone.files.content number <+: later.files.content number ∧
            alone.collector.status.lookup "offset" = later.collector.status.lookup "offset" := by
  obtain ⟨-, -, viewed⟩ := ConcurrentCollector.of_new_eq_ok made
  obtain ⟨effects, serial⟩ := run.effects (ConcurrentCollector.serial_of_new made)
    (Collector.orderly_of_new viewed)
  have orderly := effects.orderly (Collector.orderly_of_new viewed)
  refine ⟨lifeCycle_of_serial serial orderly, ?_, ?_⟩
  · intro host holds name other store path offset
    exact Host.call_of_name_ne holds other store path offset
  -- A start that succeeded leaves a new cursor, whatever there was before.
  intro path offset after log number noStop answered found begun later resumption
  obtain ⟨idle, rfl⟩ := ConcurrentCollector.of_start_eq_started answered
  have ended : serving.collector.view.task = .ended := orderly.task_eq_ended idle
  -- What is seen is one collection after the other, whichever files they read.
  have quiet : ∀ files : FileStore,
      (({ serving with files } : Serving).begun path offset).Quiet := by
    intro files
    exact quiet_begun { serving with files } serial ended noStop path offset
  have seen : ∀ (files : FileStore) {other : Serving},
      Resumption number path (({ serving with files } : Serving).begun path offset) other →
      Collecting.Resumption number path
        (Collecting.begun files serving.now serving.collector.view path offset) other.seen := by
    intro files other resumption
    have shown := resumption.seen (quiet files).serial (quiet files).orderly
    rwa [seen_begun] at shown
  -- The frames that the collections passed over, one behind the other, are what any other
  -- comparison goes by.
  obtain ⟨frames, covers, room⟩ := Collecting.exists_covers found (seen serving.files resumption)
  refine ⟨⟨frames, covers⟩, ?_, ?_, ?_⟩
  · -- Both counts begin with the start.
    exact (seen serving.files resumption).effects.counts
  · -- Each of the two covers frames from the same offset on to the same offset.
    intro others alone leads resumptionToo comparable same
    obtain ⟨otherFrames, otherCovers, -⟩ :=
      Collecting.exists_covers leads (seen others resumptionToo)
    rw [offset?_eq_iff] at same
    -- Of two files of which one begins the other, the longer one holds both readings.
    rcases comparable with shorter | longer
    · exact otherCovers.ingested_eq_of_offset covers shorter same
    · exact (covers.ingested_eq_of_offset otherCovers longer same.symm).symm
  · -- The file as far as the frames reach is read by one collection.
    obtain ⟨contents, cut⟩ := serving.files.exists_contents number
      ((later.files.content number).take (offset.toNat + Frame.totalSize frames))
    -- Cut there, the file cannot lead a single collection any further.
    let others : FileStore := { serving.files with contents }
    have leads : others.fileNumber (FilePath.normalize path) = .ok number :=
      (FileStore.fileNumber_contents ..).trans found
    have whole : (others.content number).drop offset.toNat = frames.flatMap Frame.encode := by
      rw [cut, List.drop_take, Nat.add_sub_cancel_left, ← Frame.length_flatMap_encode]
      exact (List.prefix_iff_eq_take.mp covers.begins).symm
    obtain ⟨alone, resumptionToo, still, once, stands⟩ :=
      exists_uninterrupted (quiet others) leads whole room
    refine ⟨others, alone, leads, resumptionToo, once, ?_, ?_⟩
    · rw [still, cut]
      exact List.take_prefix ..
    · exact offset?_eq_iff.mpr (stands.trans covers.offset_eq.symm)

/-- Two packets come in two collections just as they come in one. -/
theorem life_cycle_is_sound_and_restartable_between_packets :
    let packet : Bytes := Frame.encode ⟨2, List.replicate 28 7, by decide⟩
    let files : FileStore :=
      { nodes := [(["log"], .file 0)], contents := [packet ++ packet] }
    let collector : ConcurrentCollector :=
      { interval := .finite false 0, batch := 1, queue := { capacity := some 1 } }
    let fresh : Serving := { files, now := Instant.start, collector }
    let first := fresh.started "log" 0
    let stopped := ((first.advanced 0).asked.advanced 0).cleared 0
    let second := (stopped.started "log" 36).advanced 1
    let alone := (first.advanced 0).advanced 0
    Resumption 0 "log" first second ∧ second.seen.starts = 2 ∧
      Resumption 0 "log" first alone ∧ alone.seen.starts = 1 ∧
      second.seen.ingested.length = 2 ∧ alone.seen.ingested = second.seen.ingested := by
  intro packet files collector fresh first stopped second alone
  have made : ConcurrentCollector.new (.finite false 0) (some 1) 1 = .ok collector := by rfl
  have leads : files.fileNumber (FilePath.normalize "log") = .ok 0 := by cbv
  obtain ⟨log, answered⟩ :=
    ConcurrentCollector.start_eq_ok (show collector.running = false from rfl) leads 0
  -- The work of the first collection has ended when the stop goes on.
  let ended := (first.advanced 0).asked.advanced 0
  have finished :
      ended.collector.collections[0]?.map (fun closed => (closed.task, closed.failure)) =
        some (.ended, none) := by cbv
  obtain ⟨closed, awaited, endsSo⟩ := Option.map_eq_some_iff.mp finished
  obtain ⟨gone, sound⟩ := Prod.mk.inj endsSo
  obtain ⟨told, resumed⟩ := ConcurrentCollector.resumeStop_eq
    (show ended.collector.stops[0]? = some 0 by cbv) awaited gone sound
  -- One packet, a stop, a start where the status says, and the other packet.
  have split : Resumption 0 "log" first second := by
    have turns : Resumption 0 "log" first (first.advanced 0) := .single (resumes_advanced leads 0)
    have ends : Resumption 0 "log" first ended :=
      (turns.tail (resumes_asked leads (show (first.advanced 0).collector.running = true by
        cbv))).tail (resumes_advanced leads 0)
    have again : Resumption 0 "log" first (stopped.started "log" 36) :=
      (ends.tail (resumes_resumed leads resumed)).tail
        (resumes_started leads rfl (show stopped.collector.stops = [] by cbv)
          (show stopped.collector.status.lookup "offset" = some (.number 36) by cbv))
    exact again.tail (resumes_advanced leads 1)
  have whole : Resumption 0 "log" first alone :=
    (Relation.ReflTransGen.single (resumes_advanced leads 0)).tail (resumes_advanced leads 0)
  obtain ⟨-, -, restarts⟩ := life_cycle_is_sound_and_restartable made
    (show SequentialRun fresh fresh from .refl)
  obtain ⟨-, -, agrees, -⟩ := restarts "log" 0 _ log 0 rfl answered leads _ split
  have contents : alone.files.content 0 = second.files.content 0 := rfl
  have same : alone.collector.status.lookup "offset" = second.collector.status.lookup "offset" := by
    cbv
  exact ⟨split, by cbv, whole, by cbv, by cbv,
    agrees files alone leads whole (.inl (contents ▸ List.prefix_refl _)) same⟩

/-- A start that is served while a stop waits leaves work that goes on although the collector does
not run: without another start it puts a packet into the queue. -/
theorem overlapping_start_goes_on_without_running :
    let packet : Bytes := Frame.encode ⟨2, List.replicate 28 7, by decide⟩
    let files : FileStore := { nodes := [(["log"], .file 0)], contents := [packet] }
    let collector : ConcurrentCollector :=
      { interval := .finite false 0, batch := 1, queue := { capacity := some 9 } }
    let fresh : Serving := { files, now := Instant.start, collector }
    let serving := fresh.overlapped "log" 0
    let later := serving.advanced 1
    ConcurrentCollector.new (.finite false 0) (some 9) 1 = .ok collector ∧ Run fresh serving ∧
      serving.collector.running = false ∧
      (∃ collection ∈ serving.collector.collections, collection.task ≠ .ended) ∧
      Run serving later ∧ later.seen.starts = serving.seen.starts ∧
      serving.collector.ingested = 0 ∧ later.collector.ingested = 1 := by
  intro packet files collector fresh serving later
  have leads : files.fileNumber (FilePath.normalize "log") = .ok 0 := by cbv
  have ready : serving.collector.latest?.map Collection.task = some (.ready 0) := by cbv
  obtain ⟨second, latest, waits⟩ := Option.map_eq_some_iff.mp ready
  -- The second collection is the latest, and it is ready.
  have live : ∃ collection ∈ serving.collector.collections, collection.task ≠ .ended :=
    ⟨second, List.mem_of_getElem? latest, by simp [waits]⟩
  exact ⟨by rfl, run_overlapped rfl rfl leads 0, rfl, live, .single (.advance serving 1),
    starts_advanced serving 1, by cbv, by cbv⟩

end Serving

end Unified2
