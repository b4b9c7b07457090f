import Mathlib.Logic.Relation
import Unified2.Proofs.File.Loop
import Unified2.Proofs.File.Store
import Unified2.Tail

/-! A cursor in a file that only grows passes every frame once, and returns and counts it then. -/

namespace Unified2

/-- How many of the frames are of each outcome. -/
def Tally.ofFrames (frames : List Frame) : Tally where
  event := frames.countP (·.kind? = some .event)
  packet := frames.countP (·.kind? = some .packet)
  extraData := frames.countP (·.kind? = some .extraData)
  unknown := frames.countP (·.kind? = some .unknown)
  corrupt := frames.countP (·.kind? = none)

/-- Counting a frame counts it among the frames. -/
theorem Tally.count_ofFrames (frames : List Frame) (offset : Nat) (frame : Frame) :
    (ofFrames frames).count ⟨offset, frame.decode⟩ = ofFrames (frames ++ [frame]) := by
  -- Exactly one of the five numbers is one more.
  unfold count ofFrames
  cases decoded : frame.decode with
  | error error => simp [Frame.kind?, decoded, Except.toOption]
  | ok record => cases record <;> simp [Frame.kind?, decoded, Except.toOption, Record.kind]

/-- Counting frames one after the other counts all of them. -/
theorem Tally.foldl_count_sightings (before frames : List Frame) (offset : Nat) :
    (Frame.sightings offset frames).foldl count (ofFrames before) =
      ofFrames (before ++ frames) := by
  -- Each frame counted moves from the frames to come to those before.
  induction frames generalizing before offset with
  | nil => simp [Frame.sightings]
  | cons frame frames ih =>
    rw [Frame.sightings, List.foldl_cons, count_ofFrames, ih, List.append_assoc,
      List.singleton_append]

namespace Tally

/-- How many frames were records of known types. -/
def known (tally : Tally) : Nat := tally.event + tally.packet + tally.extraData

/-- A record of a known type is counted as one, and nothing else is. -/
theorem known_count (tally : Tally) (sighting : Sighting) :
    (tally.count sighting).known = tally.known + sighting.known?.toList.length := by
  unfold known count Sighting.known?
  cases sighting.outcome with
  | error error => simp
  | ok record => cases record <;> simp [Record.kind] <;> omega

/-- Counting sightings counts as many records of known types as they show. -/
theorem known_foldl_count (tally : Tally) (sightings : List Sighting) :
    (sightings.foldl count tally).known =
      tally.known + (sightings.filterMap Sighting.known?).length := by
  induction sightings generalizing tally with
  | nil => simp
  | cons sighting sightings ih =>
    rw [List.foldl_cons, ih, known_count, List.filterMap_cons]
    cases sighting.known? with
    | none => simp
    | some record =>
      simp only [Option.toList_some, List.length_cons, List.length_nil]
      omega

end Tally

/-- The records that a poll gave; one that failed gave none. -/
def Poll.records (poll : Poll) : List Record := poll.answer.toOption.getD []

/-- The poll brought records: it counted them among those of known types and left the file open. -/
structure Poll.Brings (poll : Poll) (tail : Tail) (records : List Record) : Prop where
  answer_eq : poll.answer = .ok records
  known_eq : poll.tail.tally.known = tail.tally.known + records.length
  opened : poll.tail.reader ≠ none
  skips : poll.tail.skipCorrupt = true
  /-- A record comes from a frame that was decoded. -/
  decoded : ∀ record ∈ records, ∃ frame : Frame, frame.decode = .ok record

/-- What the poll brought is what it gave. -/
theorem Poll.Brings.records_eq {poll : Poll} {tail : Tail} {records : List Record}
    (brings : poll.Brings tail records) : poll.records = records := by
  simp [Poll.records, brings.answer_eq, Except.toOption]

/-- A poll that failed gave nothing. -/
theorem Poll.records_of_error {poll : Poll} {error : PollError}
    (answered : poll.answer = .error error) : poll.records = [] := by
  simp [Poll.records, answered, Except.toOption]

namespace Tail

/-- The cursor stands behind frames from an offset on, and has counted them. -/
structure Behind (tail : Tail) (start : Nat) (frames : List Frame) : Prop where
  offset_eq : tail.offset = start + Frame.totalSize frames
  tally_eq : tail.tally = Tally.ofFrames frames

/-- The cursor passed some of the frames in its file, and comes to the later ones next. -/
structure Follows (store : FileStore) (number start : Nat) (tail : Tail)
    (passed later : List Frame) (rest : Bytes) : Prop where
  path_leads : store.fileNumber tail.path = .ok number
  reader_sound : ∀ reader, tail.reader = some reader →
    OpenFile.Sound number ⟨store.content number, reader⟩
  behind : tail.Behind start passed
  split : Frame.Splits ((store.content number).drop start) (passed ++ later) rest

/-- The cursor after a sweep of its file. -/
def swept (tail : Tail) (sweep : Sweep OpenFile) : Tail :=
  { tail with
    reader := some sweep.source.reader
    tally := sweep.sightings.foldl Tally.count tail.tally
    shortfall := match sweep.ending with
      | .shortfall reason => some reason
      | _ => tail.shortfall }

/-- The poll that makes a sweep of its file. -/
def pollOf (tail : Tail) (sweep : Sweep OpenFile) : Poll where
  answer := match sweep.ending with
    | .corrupt error => .error (.corrupt error)
    | _ => .ok (sweep.sightings.filterMap Sighting.known?)
  tail := tail.swept sweep
  log := sweep.sightings.filterMap tail.notice?

variable {store : FileStore} {number start : Nat} {tail : Tail}

/-- A poll whose file opens is one sweep of it. -/
theorem poll_eq_pollOf {reader : FileReader} (opened : tail.openReader store = .ok reader)
    (limit : Option Int) :
    tail.poll store limit =
      tail.pollOf (tail.rule.sweep limit ⟨store.content reader.number, reader⟩) := by
  simp only [poll, opened]
  rfl

/-- A poll that skips corrupt frames gives the records of its loop. -/
theorem poll_of_loops {reader : FileReader} {limit : Option Int} {tries : Nat}
    {sweep : Sweep OpenFile} (opened : tail.openReader store = .ok reader)
    (skips : tail.skipCorrupt = true)
    (loops : tail.rule.Loops (limit.map Int.toNat) ⟨store.content reader.number, reader⟩ tries
      sweep) :
    tail.poll store limit = tail.pollOf sweep ∧
      (tail.pollOf sweep).answer = .ok (sweep.sightings.filterMap Sighting.known?) := by
  refine ⟨by rw [poll_eq_pollOf opened, loops.sweep_eq OpenFile.draws], ?_⟩
  -- Of the ways to end only a corrupt frame would give the other answer.
  have sound := loops.ending_ne_corrupt (show tail.rule.stopAtCorrupt = false by
    simp [rule, skips])
  unfold pollOf
  cases ended : sweep.ending with
  | full | shortfall => rfl
  | corrupt error => exact absurd ended (sound error)

/-- A poll of an open file passes the frames that its rule lets it pass. -/
theorem poll_of_openReader {reader : FileReader} (opened : tail.openReader store = .ok reader)
    (sound : OpenFile.Sound number ⟨store.content number, reader⟩)
    {frames : List Frame} {rest : Bytes}
    (split : Frame.Splits ((store.content number).drop reader.position) frames rest)
    (limit : Option Int) :
    let passing := tail.rule.pass (limit.map Int.toNat) frames
    let passed := Frame.sightings reader.position (frames.take passing.1)
    let ending := passing.2.getD (.shortfall (.ofRest rest))
    ∃ after : FileReader, OpenFile.Sound number ⟨store.content number, after⟩ ∧
      after.position = reader.position + Frame.totalSize (frames.take passing.1) ∧
      tail.poll store limit = {
        answer := match ending with
          | .corrupt error => .error (.corrupt error)
          | _ => .ok (passed.filterMap Sighting.known?)
        tail := { tail with
          reader := some after
          tally := passed.foldl Tally.count tail.tally
          shortfall := match ending with
            | .shortfall reason => some reason
            | _ => tail.shortfall }
        log := passed.filterMap tail.notice? } := by
  intro passing passed ending
  -- The poll is one sweep of the file that the reader has open.
  have file : reader.number = number := sound.number_eq
  obtain ⟨shown, ended, after, position⟩ := sound.sweep split tail.rule limit
  refine ⟨_, after, position, ?_⟩
  simp only [poll, opened, file, shown, ended]
  rfl

/-- No poll changes how the cursor takes corrupt frames. -/
theorem skipCorrupt_poll (tail : Tail) (store : FileStore) (limit : Option Int) :
    (tail.poll store limit).tail.skipCorrupt = tail.skipCorrupt := by
  unfold poll
  split <;> rfl

/-- No poll changes where the file is. -/
theorem path_poll (tail : Tail) (store : FileStore) (limit : Option Int) :
    (tail.poll store limit).tail.path = tail.path := by
  unfold poll
  split <;> rfl

/-- A file that cannot be opened was not open, and is refused where the cursor stands. -/
theorem of_openReader_eq_error {error : FileError}
    (refused : tail.openReader store = .error error) :
    tail.reader = none ∧ FileReader.openAt store tail.path tail.start = .error error := by
  unfold openReader at refused
  cases opened : tail.reader with
  | some reader => simp [opened] at refused
  | none => exact ⟨rfl, by simpa [opened] using refused⟩

/-- A file that opens was open, or is opened where the cursor stands. -/
theorem of_openReader_eq_ok {reader : FileReader} (opened : tail.openReader store = .ok reader) :
    tail.reader = some reader ∨
      tail.reader = none ∧ FileReader.openAt store tail.path tail.start = .ok reader := by
  unfold openReader at opened
  cases has : tail.reader with
  | some held => exact .inl (by simpa [has] using opened)
  | none => exact .inr ⟨rfl, by simpa [has] using opened⟩

/-- A file is opened for a cursor only if it is not open already, and is refused then where there is
no file or the cursor stands at an offset of none. -/
theorem exists_openReader_eq_error_iff :
    (∃ error, tail.openReader store = .error error) ↔
      tail.reader = none ∧ (tail.offset < 0 ∨ FileReader.offsetLimit ≤ tail.offset ∨
        ∃ error, store.fileNumber tail.path = .error error) := by
  cases opened : tail.reader with
  | some reader => simp [openReader, opened]
  | none =>
    -- The cursor stands where the file will be opened.
    have stands : tail.offset = tail.start := by simp [offset, opened]
    simp only [openReader, opened, stands, true_and]
    exact FileReader.exists_openAt_eq_error_iff

/-- The reader of a poll stands where the cursor does. -/
theorem offset_eq_position {reader : FileReader} (opened : tail.openReader store = .ok reader) :
    tail.offset = reader.position := by
  unfold offset
  rcases of_openReader_eq_ok opened with held | ⟨closed, opensNow⟩
  · simp only [held]
  · -- The file is opened there, and nothing of it was read yet.
    obtain ⟨notNegative, -, number, -, rfl⟩ := FileReader.of_openAt_eq_ok opensNow
    simpa [closed, FileReader.position] using notNegative

/-- A poll whose file cannot be opened leaves the cursor as it was, and tells the log nothing. -/
theorem poll_of_refused {error : FileError} (refused : tail.openReader store = .error error)
    (limit : Option Int) :
    tail.poll store limit = { answer := .error (.file error), tail, log := [] } := by
  simp only [poll, refused]

/-- A poll fails because of the file exactly if the file does not open. -/
theorem answer_poll_eq_file_iff {limit : Option Int} {error : FileError} :
    (tail.poll store limit).answer = .error (.file error) ↔
      tail.openReader store = .error error := by
  cases opened : tail.openReader store with
  | error other => simp [poll_of_refused opened]
  | ok reader =>
    -- What an open file holds can be corrupt at most.
    rw [poll_eq_pollOf opened, pollOf]
    cases (tail.rule.sweep limit (OpenFile.mk (store.content reader.number) reader)).ending <;> simp

/-- To close a cursor whose file is not open changes nothing. -/
theorem close_of_closed (closed : tail.reader = none) : tail.close = tail := by
  -- It stands where its file will be opened already.
  cases tail
  cases closed
  rfl

/-- A poll that also closes the file leaves the cursor as it was, too, if the file does not open. -/
theorem pollOnce_of_refused {error : FileError} (refused : tail.openReader store = .error error)
    (limit : Option Int) :
    tail.pollOnce store limit = { answer := .error (.file error), tail, log := [] } := by
  rw [pollOnce, poll_of_refused refused, close_of_closed (of_openReader_eq_error refused).1]

/-- Whatever the file holds, a poll that skips corrupt frames changes nothing, as the file cannot
be opened, or brings records. -/
theorem poll_cases (skips : tail.skipCorrupt = true) (store : FileStore) (limit : Option Int) :
    (∃ error, tail.openReader store = .error error ∧
      tail.poll store limit = { answer := .error (.file error), tail, log := [] }) ∨
    ∃ records, (tail.poll store limit).Brings tail records := by
  cases opened : tail.openReader store with
  | error error => exact .inl ⟨error, rfl, poll_of_refused opened limit⟩
  | ok reader =>
    right
    -- The loop of the poll comes to an end, whatever the file holds.
    obtain ⟨tries, loops, -⟩ := SweepRule.endsWithin_remaining OpenFile.draws tail.rule limit
      (OpenFile.mk (store.content reader.number) reader)
    obtain ⟨polled, answered⟩ := poll_of_loops opened skips loops
    rw [polled]
    refine ⟨_, answered, Tally.known_foldl_count .., nofun, skips, ?_⟩
    intro record member
    -- Each record is what some frame was decoded to.
    obtain ⟨sighting, seen, shows⟩ := List.mem_filterMap.mp member
    obtain ⟨frame, same⟩ := loops.exists_frame sighting seen
    exact ⟨frame, same ▸ Sighting.outcome_of_known? shows⟩

/-- A poll that brings records has its file open, or opens it at an offset of a file. -/
theorem within_of_brings {limit : Option Int} {records : List Record}
    (brings : (tail.poll store limit).Brings tail records) (closed : tail.reader = none) :
    0 ≤ tail.offset ∧ tail.offset < FileReader.offsetLimit := by
  by_contra outside
  have stands : tail.start = tail.offset := by simp [offset, closed]
  obtain ⟨error, refused⟩ := FileReader.openAt_of_outside store tail.path
    (show tail.start < 0 ∨ FileReader.offsetLimit ≤ tail.start by omega)
  -- The poll would have failed.
  have answered := brings.answer_eq
  rw [poll_of_refused (show tail.openReader store = .error error by
    simp [openReader, closed, refused])] at answered
  cases answered

namespace Follows

variable {passed later : List Frame} {rest : Bytes}

/-- The cursor stands in the file, unless it started behind all of it. -/
theorem offset_le (follows : tail.Follows store number start passed later rest) :
    tail.offset ≤ max start (store.content number).length := by
  have within := follows.split.offset_le
  rw [follows.behind.offset_eq]
  omega

/-- A new cursor at an offset of a file has passed nothing. -/
theorem new {path : String} {skipCorrupt : Bool}
    (found : store.fileNumber (FilePath.normalize path) = .ok number)
    (split : Frame.Splits ((store.content number).drop start) later rest) :
    (Tail.new path start skipCorrupt).Follows store number start [] later rest :=
  ⟨found, by simp [Tail.new], ⟨by simp [Tail.new, offset], rfl⟩, split⟩

/-- What a file gains is behind what the cursor has passed. -/
theorem grow (follows : tail.Follows store number start passed later rest) {grown : FileStore}
    (leads : grown.fileNumber tail.path = .ok number) {bytes : Bytes}
    (gains : grown.content number = store.content number ++ bytes) :
    ∃ more left, tail.Follows grown number start passed (later ++ more) left := by
  have begins : store.content number <+: grown.content number := gains ▸ List.prefix_append ..
  obtain ⟨more, left, split⟩ := follows.split.grow begins
  rw [List.append_assoc] at split
  exact ⟨more, left, leads, fun reader opened => (follows.reader_sound reader opened).grow begins,
    follows.behind, split⟩

/-- Closing the file keeps the cursor where it is. -/
theorem close (follows : tail.Follows store number start passed later rest) :
    tail.close.Follows store number start passed later rest :=
  ⟨follows.path_leads, by simp [Tail.close],
    ⟨follows.behind.offset_eq, follows.behind.tally_eq⟩, follows.split⟩

/-- The file can be opened where the cursor stands, as long as that is an offset of a file. -/
theorem opens (follows : tail.Follows store number start passed later rest)
    (representable : tail.reader = none → tail.offset < FileReader.offsetLimit) :
    ∃ reader, tail.openReader store = .ok reader ∧
      OpenFile.Sound number ⟨store.content number, reader⟩ ∧
      reader.position = start + Frame.totalSize passed := by
  have stands := follows.behind.offset_eq
  cases opened : tail.reader with
  | some reader =>
    -- A file that is open stays open.
    refine ⟨reader, by simp [openReader, opened], follows.reader_sound reader opened, ?_⟩
    simp only [offset, opened] at stands
    omega
  | none =>
    -- Else it is opened where the cursor stands, with nothing fetched yet.
    have below := representable opened
    rw [stands] at below
    have begins : tail.start = ((start + Frame.totalSize passed : Nat) : Int) := by
      simpa [offset, opened] using stands
    refine ⟨{ number, fetched := start + Frame.totalSize passed }, ?_,
      OpenFile.sound_of_fresh .., rfl⟩
    simp only [openReader, opened, begins]
    exact FileReader.openAt_eq_ok follows.path_leads (by exact_mod_cast below)

/-- A poll sees the frames that its rule lets it pass, the first of them where the cursor stands. -/
theorem poll_sees (follows : tail.Follows store number start passed later rest)
    (representable : tail.reader = none → tail.offset < FileReader.offsetLimit)
    (limit : Option Int) :
    let passing := tail.rule.pass (limit.map Int.toNat) later
    let seen := Frame.sightings (start + Frame.totalSize passed) (later.take passing.1)
    let ending := passing.2.getD (.shortfall (.ofRest rest))
    ∃ after : FileReader, OpenFile.Sound number ⟨store.content number, after⟩ ∧
      after.position =
        start + Frame.totalSize passed + Frame.totalSize (later.take passing.1) ∧
      tail.poll store limit = {
        answer := match ending with
          | .corrupt error => .error (.corrupt error)
          | _ => .ok (seen.filterMap Sighting.known?)
        tail := { tail with
          reader := some after
          tally := seen.foldl Tally.count tail.tally
          shortfall := match ending with
            | .shortfall reason => some reason
            | _ => tail.shortfall }
        log := seen.filterMap tail.notice? } := by
  intro passing seen ending
  obtain ⟨reader, opened, sound, stands⟩ := follows.opens representable
  -- The reader stands behind the frames passed, so it finds the later ones.
  have split : Frame.Splits ((store.content number).drop reader.position) later rest := by
    have behind := follows.split.drop_offset passed.length
    rwa [List.take_left, List.drop_left, ← stands] at behind
  have polled := poll_of_openReader opened sound split limit
  rw [stands] at polled
  exact polled

/-- A poll passes the frames that its rule lets it pass, and no others. -/
theorem poll (follows : tail.Follows store number start passed later rest)
    (representable : tail.reader = none → tail.offset < FileReader.offsetLimit)
    (limit : Option Int) :
    let passing := tail.rule.pass (limit.map Int.toNat) later
    let poll := tail.poll store limit
    poll.tail.Follows store number start (passed ++ later.take passing.1)
        (later.drop passing.1) rest ∧
      poll.answer = (match passing.2.getD (.shortfall (.ofRest rest)) with
        | .corrupt error => .error (.corrupt error)
        | _ => .ok ((later.take passing.1).filterMap Frame.known?)) ∧
      poll.tail.shortfall = (match passing.2.getD (.shortfall (.ofRest rest)) with
        | .shortfall reason => some reason
        | _ => tail.shortfall) := by
  intro passing
  obtain ⟨after, sound, stands, polled⟩ := follows.poll_sees representable limit
  simp only [polled, Frame.filterMap_sightings]
  -- The frames passed go from the later ones to those behind the cursor, which counts them.
  refine ⟨⟨follows.path_leads, ?_, ⟨?_, ?_⟩, ?_⟩, rfl, rfl⟩
  · rintro reader same
    cases same
    exact sound
  · simp only [offset, stands, Frame.totalSize_append, passing]
    omega
  · rw [follows.behind.tally_eq, Tally.foldl_count_sightings]
  · rw [List.append_assoc, List.take_append_drop]
    exact follows.split

/-- A poll tells the log of the frames that it passes, as far as they are worth telling. -/
theorem log_poll (follows : tail.Follows store number start passed later rest)
    (representable : tail.reader = none → tail.offset < FileReader.offsetLimit)
    (limit : Option Int) :
    (tail.poll store limit).log =
      (Frame.sightings (start + Frame.totalSize passed)
        (later.take (tail.rule.pass (limit.map Int.toNat) later).1)).filterMap tail.notice? := by
  obtain ⟨after, -, -, polled⟩ := follows.poll_sees representable limit
  rw [polled]

/-- A poll whose file cannot be opened changes nothing. -/
theorem poll_of_unrepresentable (follows : tail.Follows store number start passed later rest)
    (closed : tail.reader = none) (far : FileReader.offsetLimit ≤ tail.offset)
    (limit : Option Int) :
    tail.poll store limit = { answer := .error (.file .offsetTooWide), tail, log := [] } := by
  -- The offset is judged before the file is read.
  have stands : tail.start = tail.offset := by simp [offset, closed]
  have wide : tail.start < -FileReader.offsetLimit ∨ FileReader.offsetLimit ≤ tail.start :=
    .inr (stands ▸ far)
  have refused : tail.openReader store = .error .offsetTooWide := by
    simp only [openReader, closed, FileReader.openAt, follows.path_leads, bind, Except.bind,
      if_pos wide]
    rfl
  exact poll_of_refused refused limit

/-- Without a limit a poll that skips corrupt frames passes all that are there. -/
theorem poll_all (follows : tail.Follows store number start passed later rest)
    (representable : tail.reader = none → tail.offset < FileReader.offsetLimit)
    (skips : tail.skipCorrupt = true) :
    (tail.poll store none).tail.Follows store number start (passed ++ later) [] rest ∧
      (tail.poll store none).answer = .ok (later.filterMap Frame.known?) ∧
      (tail.poll store none).tail.shortfall = some (.ofRest rest) := by
  -- Without a limit, and as corrupt frames do not end it, nothing ends the poll early.
  have all := SweepRule.pass_unlimited (show tail.rule.stopAtCorrupt = false by simp [rule, skips])
    later
  have polled := follows.poll representable none
  simpa only [Option.map_none, all, Option.getD_none, List.take_length, List.drop_length]
    using polled

/-- With a limit it brings as many of the records to come as it may, and reaches the rest if they
do not fill it up. -/
theorem poll_some (follows : tail.Follows store number start passed later rest)
    (representable : tail.reader = none → tail.offset < FileReader.offsetLimit)
    (skips : tail.skipCorrupt = true) (most : Int) :
    ∃ count, count ≤ later.length ∧
      (tail.poll store (some most)).tail.Follows store number start
        (passed ++ later.take count) (later.drop count) rest ∧
      (later.take count).filterMap Frame.known? =
        (later.filterMap Frame.known?).take most.toNat ∧
      (tail.poll store (some most)).answer =
        .ok ((later.filterMap Frame.known?).take most.toNat) ∧
      if most.toNat ≤ (later.filterMap Frame.known?).length then
        (tail.poll store (some most)).tail.shortfall = tail.shortfall
      else
        count = later.length ∧
          (tail.poll store (some most)).tail.shortfall = some (.ofRest rest) := by
  have goesOn : tail.rule.stopAtCorrupt = false := by simp [rule, skips]
  obtain ⟨records, ending⟩ := SweepRule.pass_limited goesOn rfl most.toNat later
  obtain ⟨moved, answered, told⟩ := follows.poll representable (some most)
  refine ⟨_, SweepRule.pass_le _ later, moved, records, ?_⟩
  simp only [Option.map_some, ending, records] at answered told
  by_cases full : most.toNat ≤ (later.filterMap Frame.known?).length
  · -- The limit ends the poll before it looks for another frame.
    simp only [if_pos full, Option.getD_some] at answered told ⊢
    exact ⟨answered, told⟩
  · -- The records ran out, so there was no other reason to stop than the rest.
    simp only [if_neg full, Option.getD_none] at answered told ending ⊢
    exact ⟨answered, SweepRule.pass_eq_length ending, told⟩

/-- However many records it may bring, it brings those of the frames that it passes; if it may bring
none it passes none. -/
theorem poll_passes (follows : tail.Follows store number start passed later rest)
    (representable : tail.reader = none → tail.offset < FileReader.offsetLimit)
    (skips : tail.skipCorrupt = true) (most : Int) :
    ∃ more left, (tail.poll store (some most)).tail.Follows store number start
        (passed ++ more) left rest ∧
      (tail.poll store (some most)).answer = .ok (more.filterMap Frame.known?) ∧
      (more ≠ [] → 0 < most) := by
  by_cases positive : 0 < most
  · obtain ⟨count, -, moved, records, answered, -⟩ :=
      follows.poll_some representable skips most
    exact ⟨_, _, moved, records ▸ answered, fun _ => positive⟩
  · -- There is no room for a single frame.
    have none : most.toNat = 0 := by omega
    obtain ⟨moved, answered, -⟩ := follows.poll representable (some most)
    simp only [Option.map_some, none, SweepRule.pass_zero, Option.getD_some] at moved answered
    exact ⟨_, _, moved, answered, fun some => absurd List.take_zero some⟩

end Follows

end Tail

end Unified2
