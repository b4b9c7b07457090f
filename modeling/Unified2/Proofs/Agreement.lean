import Unified2.Proofs.Collector
import Unified2.Proofs.File.Path
import Unified2.Proofs.Host
import Unified2.Proofs.Page
import Unified2.Proofs.Settings
import Unified2.Session

/-! Reading a file page by page and collecting it in the background bring the same records. -/

namespace Unified2

namespace Host

/-- Pages read one after the other with any limits, each from where the one before ended, until one
finds nothing more. -/
inductive Paging (store : FileStore) (path : String) :
    Host → (offset : Nat) → (limits : List Int) → List Page → Host → Prop
  | last {host after : Host} {offset : Nat} {limit : Int} {page : Page} {log : List LogRecord}
      {reason : Shortfall}
      (answered : host.call store (.readPage path offset limit) = (.page page, after, log))
      (spent : page.ending = .shortfall reason) :
      Paging store path host offset [limit] [page] after
  | next {host after final : Host} {offset : Nat} {limit : Int} {page : Page}
      {log : List LogRecord} {limits : List Int} {pages : List Page}
      (answered : host.call store (.readPage path offset limit) = (.page page, after, log))
      (goesOn : ∀ reason, page.ending ≠ .shortfall reason)
      (later : Paging store path after page.nextOffset limits pages final) :
      Paging store path host offset (limit :: limits) (page :: pages) final

/-- Fetches made one after the other with any limits, until none is left to fetch. -/
inductive Fetching (store : FileStore) : Host → (limits : List Int) → List Fetch → Host → Prop
  | last {host after : Host} {limit : Int} {fetch : Fetch} {log : List LogRecord}
      (answered : host.call store (.fetchRecords limit) = (.fetch fetch, after, log))
      (spent : fetch.pending = 0) :
      Fetching store host [limit] [fetch] after
  | next {host after final : Host} {limit : Int} {fetch : Fetch} {log : List LogRecord}
      {limits : List Int} {fetches : List Fetch}
      (answered : host.call store (.fetchRecords limit) = (.fetch fetch, after, log))
      (goesOn : fetch.pending ≠ 0)
      (later : Fetching store after limits fetches final) :
      Fetching store host (limit :: limits) (fetch :: fetches) final

/-- The host after its collector settled. -/
def settled (host : Host) (store : FileStore) (now : Instant) : Host :=
  match host.collector? with
  | none => host
  | some collector => host.withCollector (collector.settle store now).1

/-- Settling a session settles its host. -/
theorem drive_settle (session : Session) :
    (session.drive Collector.settle).host =
      session.host.map fun host => host.settled session.files session.now := by
  unfold Session.drive settled
  -- A collector that the session has besides changes neither the files nor the host.
  cases session.collector <;> cases hosted : session.host with
  | none => simp [hosted, Session.note]
  | some host => cases collects : host.collector? <;> simp [hosted, collects, Session.note]

/-- Pages hold what frames show from an offset on, and end where these do. -/
structure Covers (pages : List Page) (offset : Nat) (frames : List Frame) (rest : Bytes) :
    Prop where
  records_eq : pages.flatMap Page.records = frames.filterMap Frame.known?
  unknown_eq :
    (pages.map Page.skippedUnknown).sum = frames.countP (·.kind? = some .unknown)
  corrupt_eq : pages.countP Page.isCorrupt = frames.countP (·.kind? = none)
  ends : ∃ last, pages.getLast? = some last ∧
    last.nextOffset = offset + Frame.totalSize frames ∧ last.ending = .shortfall (.ofRest rest)

/-- A page that finds nothing more covers the frames it passes. -/
theorem Covers.single {path : String} {offset : Nat} {frames : List Frame} {rest : Bytes}
    {ending : Option SweepEnd} {page : Page}
    (same : page = .ofFrames path offset frames rest ending)
    (spent : page.ending = .shortfall (.ofRest rest))
    (corrupt : [page].countP Page.isCorrupt = frames.countP (·.kind? = none)) :
    Covers [page] offset frames rest where
  records_eq := by simp [same, Page.ofFrames]
  unknown_eq := by simp [same, Page.ofFrames]
  corrupt_eq := corrupt
  ends := ⟨page, rfl, by rw [same, Page.ofFrames], spent⟩

/-- A page before others covers the frames it passes before theirs. -/
theorem Covers.cons {path : String} {offset : Nat} {passed later : List Frame} {rest : Bytes}
    {ending : Option SweepEnd} {page : Page} {pages : List Page}
    (same : page = .ofFrames path offset passed rest ending)
    (corrupt : [page].countP Page.isCorrupt = passed.countP (·.kind? = none))
    (covers : Covers pages page.nextOffset later rest) :
    Covers (page :: pages) offset (passed ++ later) rest := by
  -- Records and counts add up, and the last page decides where all of them end.
  obtain ⟨last, isLast, stands, spent⟩ := covers.ends
  have next : page.nextOffset = offset + Frame.totalSize passed := by rw [same, Page.ofFrames]
  refine ⟨?_, ?_, ?_, last, ?_, ?_, spent⟩
  · rw [List.flatMap_cons, covers.records_eq, List.filterMap_append, same, Page.ofFrames]
  · rw [List.map_cons, List.sum_cons, covers.unknown_eq, List.countP_append, same, Page.ofFrames]
  · rw [← List.singleton_append, List.countP_append, corrupt, covers.corrupt_eq,
      List.countP_append]
  · rw [List.getLast?_cons, isLast, Option.getD_some]
  · rw [stands, next, Frame.totalSize_append, Nat.add_assoc]

section Runs

variable {store : FileStore} {path : String} {number : Nat} {host : Host} {settings : Settings}
  {reader : PageReader} {collector : Collector}

/-- The page that a host answers with passes the frames that the limit lets it pass. -/
theorem Holds.page_eq (holds : host.Holds settings reader collector)
    (found : store.fileNumber path = .ok number) {offset : Nat} {frames : List Frame}
    {rest : Bytes} (split : Frame.Splits ((store.content number).drop offset) frames rest)
    {limit : Int} {page : Page} {after : Host} {log : List LogRecord}
    (answered : host.call store (.readPage path offset limit) = (.page page, after, log)) :
    let passing := PageReader.rule.pass (some (settings.clampLimit (some limit))) frames
    page = .ofFrames path offset (frames.take passing.1) rest passing.2 ∧
      ∃ other, after.Holds settings other collector := by
  intro passing
  -- Only an offset that a file can have is answered with a page.
  obtain ⟨paged, other, rfl⟩ := holds.of_call_readPage answered
  refine ⟨?_, other, holds.withPageReader other⟩
  by_cases far : FileReader.offsetLimit ≤ (offset : Int)
  · exact absurd paged (PageReader.page_of_unrepresentable far _)
  · have exact := PageReader.page_eq_ok found (Int.not_le.mp far) split
      (settings.clampLimit (some limit))
    rw [exact, Int.toNat_natCast] at paged
    exact (Except.ok.inj paged).symm

/-- However the limits are chosen, pages that find nothing more at last cover all frames. -/
theorem Paging.covers {offset : Nat} {limits : List Int} {pages : List Page} {after : Host}
    (paging : Paging store path host offset limits pages after)
    (holds : host.Holds settings reader collector)
    (found : store.fileNumber path = .ok number) {frames : List Frame} {rest : Bytes}
    (split : Frame.Splits ((store.content number).drop offset) frames rest) :
    Covers pages offset frames rest ∧ ∃ other, after.Holds settings other collector := by
  induction paging generalizing reader frames with
  | @last host after offset limit page log reason answered spent =>
    -- Whatever was asked for, the settings make some room of it, and any room will do.
    obtain ⟨same, still⟩ := holds.page_eq found split answered
    refine ⟨?_, still⟩
    generalize settings.clampLimit (some limit) = room at same
    have corrupt := PageReader.countP_isCorrupt_ofFrames path offset rest (some room) frames
    -- A page that finds nothing more passed all the frames there were.
    rw [same] at spent
    obtain ⟨all, told⟩ := PageReader.ending_ofFrames.mp spent
    rw [told, ← same] at spent
    rw [← same, SweepRule.pass_eq_length all, List.take_length] at corrupt
    rw [SweepRule.pass_eq_length all, List.take_length] at same
    exact .single same spent corrupt
  | @next host after final offset limit page log limits pages answered goesOn later ih =>
    obtain ⟨same, other, still⟩ := holds.page_eq found split answered
    generalize settings.clampLimit (some limit) = room at same
    have corrupt := PageReader.countP_isCorrupt_ofFrames path offset rest (some room) frames
    rw [← same] at corrupt
    -- The next page begins where this one ended, before the frames that it did not pass.
    have splitLater := split.drop_offset (PageReader.rule.pass (some room) frames).1
    have next : page.nextOffset = offset +
        Frame.totalSize (frames.take (PageReader.rule.pass (some room) frames).1) := by
      rw [same, Page.ofFrames]
    rw [← next] at splitLater
    obtain ⟨covers, holdsLater⟩ := ih still splitLater
    have whole := Covers.cons same corrupt covers
    rw [List.take_append_drop] at whole
    exact ⟨whole, holdsLater⟩

/-- More limits than frames are enough: with the first of them the pages find nothing more. -/
theorem Holds.exists_paging (holds : host.Holds settings reader collector)
    (positive : settings.Positive) (found : store.fileNumber path = .ok number)
    (fits : ((store.content number).length : Int) < FileReader.offsetLimit) {offset : Nat}
    (representable : (offset : Int) < FileReader.offsetLimit) {frames : List Frame} {rest : Bytes}
    (split : Frame.Splits ((store.content number).drop offset) frames rest) {limits : List Int}
    (enough : frames.length < limits.length) :
    ∃ used pages after, used <+: limits ∧ Paging store path host offset used pages after := by
  -- A page that does not find the end passes a frame, as it has room for a record.
  induction limits generalizing host reader offset frames with
  | nil => exact absurd enough (Nat.not_lt_zero _)
  | cons limit limits ih =>
    obtain ⟨other, log, answered⟩ :=
      holds.call_readPage (PageReader.page_eq_ok found representable split _)
    generalize pageIs : Page.ofFrames path offset _ rest _ = page at answered
    obtain ⟨same, next, still⟩ := holds.page_eq found split answered
    have room := positive.clampLimit_pos (some limit)
    generalize settings.clampLimit (some limit) = most at same room
    by_cases spent : ∃ reason, page.ending = .shortfall reason
    · obtain ⟨reason, spent⟩ := spent
      exact ⟨[limit], _, _, ⟨limits, rfl⟩, .last answered spent⟩
    · have goesOn : (PageReader.rule.pass (some most) frames).2 ≠ none := by
        intro all
        exact spent ⟨_, same ▸ PageReader.ending_ofFrames.mpr ⟨all, rfl⟩⟩
      have moved := PageReader.pass_pos_of_goesOn room goesOn
      have within : (PageReader.rule.pass (some most) frames).1 ≤ frames.length :=
        SweepRule.pass_le ..
      have stands : page.nextOffset = offset +
          Frame.totalSize (frames.take (PageReader.rule.pass (some most) frames).1) := by
        rw [same, Page.ofFrames]
      have splitLater := split.drop_offset (PageReader.rule.pass (some most) frames).1
      rw [← stands] at splitLater
      -- There is one limit less, but also one frame less at least.
      have fewer : (frames.drop (PageReader.rule.pass (some most) frames).1).length <
          limits.length := by
        rw [List.length_drop]
        rw [List.length_cons] at enough
        omega
      -- The frames passed end within the file, so the next page can open it there.
      have near : (page.nextOffset : Int) < FileReader.offsetLimit := by
        have parts := congrArg Frame.totalSize
          (List.take_append_drop (PageReader.rule.pass (some most) frames).1 frames)
        have covered := split.length_eq
        rw [Frame.totalSize_append] at parts
        rw [List.length_drop] at covered
        omega
      obtain ⟨used, pages, after, first, paging⟩ := ih still near splitLater fewer
      exact ⟨limit :: used, page :: pages, after, (List.prefix_cons_inj limit).mpr first,
        .next answered (fun reason ends => spent ⟨reason, ends⟩) paging⟩

/-- A fetch brings the records at the front of the queue and leaves the others. -/
theorem Holds.fetch_eq (holds : host.Holds settings reader collector) {limit : Int}
    {fetch : Fetch} {after : Host} {log : List LogRecord}
    (answered : host.call store (.fetchRecords limit) = (.fetch fetch, after, log)) :
    ∃ left, fetch.records ++ left.queue.records = collector.queue.records ∧
      fetch.pending = left.queue.records.length ∧ after.Holds settings reader left := by
  -- What the queue gives and what it keeps make up what it had.
  rw [holds.call_fetch] at answered
  cases answered
  exact ⟨(collector.fetch (some (settings.clampLimit (some limit)))).2,
    List.take_append_drop .., rfl, holds.withCollector _⟩

/-- However the limits are chosen, fetches until none is left bring all records that wait. -/
theorem Fetching.records_eq {limits : List Int} {fetches : List Fetch} {after : Host}
    (fetching : Fetching store host limits fetches after)
    (holds : host.Holds settings reader collector) :
    fetches.flatMap Fetch.records = collector.queue.records := by
  -- What a fetch leaves is what the later ones start from.
  induction fetching generalizing collector with
  | last answered spent =>
    obtain ⟨left, parts, pending, -⟩ := holds.fetch_eq answered
    have none : left.queue.records = [] := List.length_eq_zero_iff.mp (pending ▸ spent)
    rw [List.flatMap_singleton, ← parts, none, List.append_nil]
  | next answered goesOn later ih =>
    obtain ⟨left, parts, -, still⟩ := holds.fetch_eq answered
    rw [List.flatMap_cons, ih still, parts]

/-- More limits than records that wait are enough: with the first of them none is left. -/
theorem Holds.exists_fetching (holds : host.Holds settings reader collector)
    (positive : settings.Positive) (store : FileStore) {limits : List Int}
    (enough : collector.queue.records.length < limits.length) :
    ∃ used fetches after, used <+: limits ∧ Fetching store host used fetches after := by
  -- As long as a record waits a fetch brings one.
  induction limits generalizing host collector with
  | nil => exact absurd enough (Nat.not_lt_zero _)
  | cons limit limits ih =>
    have answered := holds.call_fetch store limit
    have room := positive.clampLimit_pos (some limit)
    by_cases spent : (collector.fetch (some (settings.clampLimit (some limit)))).1.pending = 0
    · exact ⟨[limit], _, _, ⟨limits, rfl⟩, .last answered spent⟩
    · -- More waits than was fetched, so the fetch was as full as it could be.
      have fewer : (collector.fetch
          (some (settings.clampLimit (some limit)))).2.queue.records.length < limits.length := by
        simp only [Collector.fetch, DropQueue.drain, DropQueue.allowance, DropQueue.size,
          List.length_drop] at spent ⊢
        rw [List.length_cons] at enough
        omega
      obtain ⟨used, fetches, after, first, fetching⟩ := ih (holds.withCollector _) fewer
      exact ⟨limit :: used, _ :: fetches, after, (List.prefix_cons_inj limit).mpr first,
        .next answered spent fetching⟩

/-- A collector that starts at an offset of a file and settles gains the records behind it. -/
theorem Holds.collect (holds : host.Holds settings reader (newCollector settings))
    (positive : settings.Positive) (found : store.fileNumber path = .ok number) {start : Nat}
    (representable : (start : Int) < FileReader.offsetLimit) {frames : List Frame} {rest : Bytes}
    (split : Frame.Splits ((store.content number).drop start) frames rest) (now : Instant) :
    ∃ started notices tail,
      host.call store (.startCollection Collector.name path start) =
        (.text (StartAnswer.started path start).message, started, notices) ∧
      (started.settled store now).Holds settings reader
        (((newCollector settings).started path start).gained tail
          (frames.filterMap Frame.known?) (Collector.pause settings.pollInterval now)) ∧
      tail.Behind start frames ∧ tail.shortfall = some (.ofRest rest) := by
  -- The collector follows the normal spelling of the path, which leads to the same file.
  have normal := FileStore.fileNumber_normalize found
  obtain ⟨notices, starts⟩ :=
    Collector.start_eq_ok (show (newCollector settings).running = false from rfl) normal start
  have batch : 0 < ((newCollector settings).started path start).batch :=
    Int.natCast_pos.mpr positive.readLimit
  obtain ⟨tail, moved, told, settled⟩ := Collector.settle_eq
    (show ((newCollector settings).started path start).task = .ready 0 from rfl) rfl
    (Tail.Follows.new normal split) (fun _ => by simpa [Tail.new, Tail.offset] using representable)
    rfl batch now
  have holdsStarted := holds.withCollector ((newCollector settings).started path start)
  refine ⟨_, notices, tail, holds.call_start starts, ?_, moved.behind, told⟩
  unfold Host.settled
  rw [holdsStarted.collector_eq]
  have after := holdsStarted.withCollector
    (((newCollector settings).started path start).settle store now).1
  rw [settled] at after
  exact settled ▸ after

end Runs

/-- What a collector that reached the end of a file has in common with the pages of the file. -/
structure Matches (collector : Collector) (capacity : Nat) (pages : List Page) : Prop where
  waits : collector.running = true ∧ collector.task ≠ .ready 0
  ingested_eq : collector.ingested = (pages.flatMap Page.records).length
  dropped_eq : collector.queue.dropped =
    (pages.flatMap Page.records).length - min capacity (pages.flatMap Page.records).length
  stands : ∃ tail last reason, collector.tail = some tail ∧ pages.getLast? = some last ∧
    tail.offset = last.nextOffset ∧ tail.tally.unknown = (pages.map Page.skippedUnknown).sum ∧
    tail.tally.corrupt = pages.countP Page.isCorrupt ∧
    last.ending = .shortfall reason ∧ tail.shortfall = some reason

/-- On a new host with both capabilities, pages read with any limits up to the end of a file hold
the records that a collection from the same offset ingests; it keeps and brings the last of them
that fit its queue, drops the others, and ends where the pages end, having skipped the same. -/
theorem pages_agree_with_collection {environment : Environment} {settings : Settings}
    (accepted : Settings.read environment = .ok settings) {process : Process}
    {paths : List ImportPath} {host : Host} {log : List LogEvent}
    (fresh : Host.new process settings paths = (.ok host, log))
    (reads : host.pageReader?.isSome) (collects : host.collector?.isSome) {store : FileStore}
    {path : String} {number start : Nat} (found : store.fileNumber path = .ok number)
    (representable : (start : Int) < FileReader.offsetLimit) (now : Instant) :
    (((store.content number).length : Int) < FileReader.offsetLimit → ∀ limits : List Int,
      (store.content number).length - start < limits.length * Frame.headerLength →
      ∃ used pages paged, used <+: limits ∧ Paging store path host start used pages paged) ∧
    ∀ limits pages paged, Paging store path host start limits pages paged →
      ∀ tailing, tailing = host ∨ tailing = paged →
        ∃ started notices collector,
          tailing.call store (.startCollection Collector.name path start) =
            (.text (StartAnswer.started path start).message, started, notices) ∧
          (started.settled store now).collector? = some collector ∧
          Matches collector settings.queueSize pages ∧
          (∀ limits fetches after,
            Fetching store (started.settled store now) limits fetches after →
            fetches.flatMap Fetch.records =
              (pages.flatMap Page.records).drop ((pages.flatMap Page.records).length -
                min settings.queueSize (pages.flatMap Page.records).length)) ∧
          ∀ limits : List Int, settings.queueSize < limits.length →
            ∃ used fetches after, used <+: limits ∧
              Fetching store (started.settled store now) used fetches after := by
  have positive := Settings.positive_of_read accepted
  have holds := holds_of_new fresh reads collects
  obtain ⟨frames, rest, split⟩ := Frame.exists_splits ((store.content number).drop start)
  constructor
  · -- The bytes behind the start are enough for no more frames than there are limits.
    intro fits limits enough
    refine holds.exists_paging positive found fits representable split ?_
    have headers := Frame.length_mul_headerLength_le frames
    have covered := split.length_eq
    rw [List.length_drop] at covered
    exact Nat.lt_of_mul_lt_mul_right (Nat.lt_of_le_of_lt headers (by omega))
  -- Both the pages and the collection hold what the same frames decode to.
  intro limits pages paged paging tailing either
  obtain ⟨covers, other, holdsPaged⟩ := paging.covers holds found split
  obtain ⟨reader, holdsTailing⟩ :
      ∃ reader, tailing.Holds settings reader (newCollector settings) := by
    rcases either with rfl | rfl
    · exact ⟨_, holds⟩
    · exact ⟨_, holdsPaged⟩
  obtain ⟨started, notices, tail, answered, holdsSettled, behind, told⟩ :=
    holdsTailing.collect positive found representable split now
  obtain ⟨last, isLast, ends, spent⟩ := covers.ends
  have queued := DropQueue.putMany_empty settings.queueSize (pages.flatMap Page.records)
  rw [← covers.records_eq] at holdsSettled
  refine ⟨started, notices, _, answered, holdsSettled.collector_eq, ?_, ?_, ?_⟩
  · refine ⟨⟨rfl, Collector.pause_ne_ready _ _⟩, Nat.zero_add _, congrArg DropQueue.dropped queued,
      tail, last, .ofRest rest, rfl, isLast, ?_, ?_, ?_, spent, told⟩
    · rw [behind.offset_eq, ends]
      rfl
    · rw [behind.tally_eq, covers.unknown_eq]
      rfl
    · rw [behind.tally_eq, covers.corrupt_eq]
      rfl
  · intro limits fetches after fetching
    exact (fetching.records_eq holdsSettled).trans (congrArg DropQueue.records queued)
  · intro limits enough
    have kept := congrArg (List.length ∘ DropQueue.records) queued
    refine holdsSettled.exists_fetching positive store (Nat.lt_of_le_of_lt ?_ enough)
    refine Nat.le_trans (Nat.le_of_eq kept) ?_
    simp only [Function.comp_apply, List.length_drop]
    omega

/-- Of two packets before a corrupt one, read one to a page, a queue for one record drops one. -/
theorem pages_agree_with_collection_of_two_packets :
    let environment : Environment := [("U2_QUEUE_SIZE", "1"), ("U2_READ_LIMIT", "1")]
    let settings : Settings := { Settings.plain with queueSize := 1, readLimit := 1 }
    let host : Host := ⟨settings, ⟨[(PageReader.name, .pageReader {}),
      (Collector.name, .collector (newCollector settings))]⟩⟩
    let packet : Bytes := Frame.encode ⟨2, List.replicate 28 7, by decide⟩
    let corrupt : Bytes := Frame.encode ⟨2, [7], by decide⟩
    let store : FileStore :=
      { nodes := [(["log"], .file 0)], contents := [packet ++ packet ++ corrupt ++ [0]] }
    Settings.read environment = .ok settings ∧
      (∃ log, Host.new {} settings settings.capabilities = (.ok host, log)) ∧
      ∃ limits pages paged, Paging store "log" host 0 limits pages paged ∧
        ∃ started notices collector,
          host.call store (.startCollection Collector.name "log" 0) =
            (.text "tailing log from offset 0", started, notices) ∧
          (started.settled store Instant.start).collector? = some collector ∧
          Matches collector 1 pages := by
  intro environment settings host packet corrupt store
  have accepted : Settings.read environment = .ok settings := by decide +kernel
  have fits : (settings.queueSize : Int) < DropQueue.capacityLimit := by decide
  obtain ⟨log, fresh⟩ := new_default {} fits
  have reads : host.pageReader?.isSome := by decide
  have collects : host.collector?.isSome := by decide
  obtain ⟨ends, agrees⟩ := pages_agree_with_collection accepted fresh reads collects
    (show store.fileNumber "log" = .ok 0 by cbv) (show ((0 : Nat) : Int) < _ by decide)
    Instant.start
  obtain ⟨used, pages, paged, -, paging⟩ := ends (by decide +kernel) (List.replicate 11 0)
    (by decide +kernel)
  obtain ⟨started, notices, collector, answered, settled, same, -⟩ :=
    agrees used pages paged paging host (.inl rfl)
  exact ⟨accepted, ⟨log, fresh⟩, used, pages, paged, paging, started, notices, collector, answered,
    settled, same⟩

end Host

end Unified2
