import Unified2.Proofs.Collecting.Step
import Unified2.Proofs.Record.Fields

/-! Every record that a collector takes out of a file is fetched, waits or is dropped, over any
number of collections; and whatever is fetched can be shown. -/

namespace Unified2

/-- Records that were decoded make an answer, which tells how many they are. -/
theorem Fetch.exists_answer {fetch : Fetch}
    (decoded : ∀ record ∈ fetch.records, ∃ frame : Frame, frame.decode = .ok record) :
    ∃ members, fetch.answer = .ok (.members members) ∧
      members.lookup "count" = some (.number fetch.records.length) := by
  obtain ⟨lists, shown, counted⟩ := Record.exists_mapM_fieldList fun record member => by
    obtain ⟨frame, same⟩ := decoded record member
    exact ⟨_, _, same⟩
  have listed : fetch.fieldLists = .ok lists := shown
  refine ⟨_, by rw [answer, listed]; rfl, ?_⟩
  simp [List.lookup, counted]

namespace Collecting

/-- The books of a collector: what came out of files is what was fetched, what waits and what was
dropped. -/
structure Accounts (collecting : Collecting) (capacity : Option Nat) : Prop where
  capacity_eq : collecting.collector.queue.capacity = capacity
  fits : collecting.collector.queue.Fits
  balanced : collecting.fetched.length + collecting.collector.queue.size +
    collecting.collector.queue.dropped = collecting.collector.ingested
  /-- Nothing changes its place, and nothing comes twice. -/
  ordered : (collecting.fetched ++ collecting.collector.queue.records).Sublist collecting.ingested
  decoded : ∀ record ∈ collecting.collector.queue.records,
    ∃ frame : Frame, frame.decode = .ok record

variable {collecting next : Collecting} {capacity : Option Nat}

/-- Records that a turn brings go to the end of the queue. -/
theorem Accounts.gained (accounts : collecting.Accounts capacity) {tail : Tail} {poll : Poll}
    {records : List Record} (brings : poll.Brings tail records) (task : CollectorTask) :
    Accounts (collecting.after (collecting.collector.gained poll.tail records task)
      [.polled poll]) capacity := by
  have fits := accounts.fits
  have gave := brings.records_eq
  have total := fits.size_putMany records
  refine ⟨(fits.capacity_putMany records).trans accounts.capacity_eq, fits.putMany records,
    ?_, ?_, ?_⟩
  · -- What the queue has no room for is dropped, so none is missing in the sum.
    have balanced := accounts.balanced
    simp only [fetched_after, Happening.taken, List.append_nil]
    simp only [collector_after, Collector.gained]
    omega
  · -- The records that still wait are among those that waited and those that came.
    simp only [fetched_after, ingested_after, Happening.taken, Happening.ingested, gave,
      List.append_nil]
    exact fits.sublist_putMany accounts.ordered records
  · intro record member
    rcases List.mem_append.mp ((fits.putMany_sublist records).subset member) with waited | came
    · exact accounts.decoded record waited
    · exact brings.decoded record came

/-- Records that are fetched leave the front of the queue. -/
theorem Accounts.fetched (accounts : collecting.Accounts capacity) (limit : Option Int) :
    Accounts (collecting.after (collecting.collector.fetch limit).2
      [.fetched (collecting.collector.fetch limit).1]) capacity := by
  have kept : ∀ record ∈ (collecting.collector.queue.drain limit).2.records,
      record ∈ collecting.collector.queue.records := by
    intro record member
    exact List.mem_of_mem_drop member
  refine ⟨accounts.capacity_eq, accounts.fits.drain limit, ?_, ?_, ?_⟩
  · -- What leaves the queue is what is fetched.
    have balanced := accounts.balanced
    have moved := collecting.collector.queue.size_drain limit
    simp only [fetched_after, Happening.taken, List.length_append]
    simp only [collector_after, Collector.fetch] at balanced ⊢
    have dropped : (collecting.collector.queue.drain limit).2.dropped =
        collecting.collector.queue.dropped := rfl
    omega
  · simp only [ingested_after, Happening.ingested, List.append_nil, fetched_after,
      Happening.taken]
    exact DropQueue.sublist_drain accounts.ordered limit
  · -- What still waits waited before.
    intro record member
    exact accounts.decoded record (kept record member)

/-- What brings no records and takes none changes the books only if it changes the queue. -/
theorem Accounts.unchanged (accounts : collecting.Accounts capacity) {collector : Collector}
    {happening : Happening} (nothing : happening.ingested = [] ∧ happening.taken = [])
    (queue : collector.queue = collecting.collector.queue)
    (count : collector.ingested = collecting.collector.ingested) :
    Accounts (collecting.after collector [happening]) capacity := by
  -- Each of the books speaks of the queue, of what came, or of what went.
  obtain ⟨noneCame, noneWent⟩ := nothing
  refine ⟨queue ▸ accounts.capacity_eq, queue ▸ accounts.fits, ?_, ?_, ?_⟩
  · rw [fetched_after, noneWent, List.append_nil]
    simp only [collector_after, queue, count]
    exact accounts.balanced
  · rw [fetched_after, ingested_after, noneCame, noneWent, List.append_nil, List.append_nil]
    simp only [collector_after, queue]
    exact accounts.ordered
  · simp only [collector_after, queue]
    exact accounts.decoded

/-- Every effect keeps the books. -/
theorem Accounts.of_effect (accounts : collecting.Accounts capacity)
    (effect : Effect collecting next) : next.Accounts capacity := by
  cases effect with
  | still files now same =>
    exact ⟨accounts.capacity_eq, accounts.fits, accounts.balanced, accounts.ordered,
      accounts.decoded⟩
  | started idle there offset => exact accounts.unchanged ⟨rfl, rfl⟩ rfl rfl
  | stopped running => exact accounts.unchanged ⟨rfl, rfl⟩ rfl rfl
  | gained running has polled brings goesOn => exact accounts.gained brings _
  | @failed tail poll error running has polled refused answered stays =>
    -- A poll that failed brought nothing.
    exact accounts.unchanged ⟨Poll.records_of_error answered, rfl⟩ rfl rfl
  | fetched limit => exact accounts.fetched limit

/-- The books of a collector that was just made are empty. -/
theorem accounts_of_new {interval : Binary64} {asked : Option Int} {batch : Int}
    {collector : Collector} (made : Collector.new interval asked batch = .ok collector)
    (files : FileStore) (now : Instant) :
    Accounts { files, now, collector } (asked.map Int.toNat) := by
  -- Nothing came, nothing waits, and nothing was fetched.
  rw [(Collector.of_new_eq_ok made).1]
  refine ⟨rfl, fun _ _ => Nat.zero_le _, rfl, List.Sublist.refl _, ?_⟩
  intro record member
  cases member

/-- As long as no other collection was started, the known records that the cursor counted are those
that were ingested since. -/
structure Tallied (collecting : Collecting) (starts ingested : Nat) : Prop where
  starts_le : starts ≤ collecting.starts
  grown : collecting.starts = starts → ∃ tail, collecting.collector.tail = some tail ∧
    tail.tally.known + ingested = collecting.collector.ingested

/-- Only a poll moves the tally, by as many records as are ingested then. -/
theorem Tallied.of_effect {starts ingested : Nat} (tallied : collecting.Tallied starts ingested)
    (effect : Effect collecting next) : next.Tallied starts ingested := by
  -- Steps of another collection do not count here, so each case asks for the number of starts.
  have later := tallied.starts_le
  cases effect with
  | still files now same => exact ⟨later, tallied.grown⟩
  | @started idle path there offset =>
    -- This is another collection, with a tally of its own.
    have more : (collecting.after (collecting.collector.started path offset)
        [.started path offset]).starts = collecting.starts + 1 := by simp [Happening.isStart]
    refine ⟨by omega, ?_⟩
    intro same
    omega
  | stopped running =>
    refine ⟨by simpa using Nat.le_add_right_of_le later, ?_⟩
    intro same
    obtain ⟨tail, has, grown⟩ := tallied.grown (by simpa [Happening.isStart] using same)
    exact ⟨tail.close, by simp [Collector.finish, has], grown⟩
  | gained running has polled brings goesOn =>
    refine ⟨by simpa using Nat.le_add_right_of_le later, ?_⟩
    intro same
    obtain ⟨tail, hadToo, grown⟩ := tallied.grown (by simpa [Happening.isStart] using same)
    -- The poll counts what it brings, and so does the collector.
    cases has.symm.trans hadToo
    refine ⟨_, rfl, ?_⟩
    have counted := brings.known_eq
    simp only [collector_after, Collector.gained]
    omega
  | failed running has polled refused answered stays =>
    refine ⟨by simpa using Nat.le_add_right_of_le later, ?_⟩
    intro same
    obtain ⟨tail, hadToo, grown⟩ := tallied.grown (by simpa [Happening.isStart] using same)
    exact ⟨tail.close, by simp [Collector.failed, Collector.finish, hadToo], grown⟩
  | fetched limit =>
    refine ⟨by simpa using Nat.le_add_right_of_le later, ?_⟩
    intro same
    obtain ⟨tail, has, grown⟩ := tallied.grown (by simpa [Happening.isStart] using same)
    exact ⟨tail, has, grown⟩

end Collecting

end Unified2
