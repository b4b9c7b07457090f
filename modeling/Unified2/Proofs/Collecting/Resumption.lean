import Unified2.Proofs.Collecting.Step

/-! Collections of one file that grows, each started where the one before it stopped, bring what a
single collection of it brings. -/

namespace Unified2

namespace Collecting

/-- An effect while the file at a path only grows, in which a collection is started only at that
path and at the offset that is reported. -/
structure Resumes (number : Nat) (path : String) (collecting next : Collecting) : Prop where
  effect : Effect collecting next
  leads : next.files.fileNumber (FilePath.normalize path) = .ok number
  grows : collecting.files.content number <+: next.files.content number
  goesOn : ∀ asked offset, next.history = collecting.history ++ [.started asked offset] →
    asked = path ∧ collecting.offset? = some offset

/-- Collections of one file, each started where the one before it stopped. -/
abbrev Resumption (number : Nat) (path : String) : Collecting → Collecting → Prop :=
  Relation.ReflTransGen (Resumes number path)

/-- Such collections are among everything that can happen. -/
theorem Resumption.effects {number : Nat} {path : String} {collecting later : Collecting}
    (resumption : Resumption number path collecting later) : Effects collecting later :=
  Relation.ReflTransGen.mono (fun _ _ => Resumes.effect) _ _ resumption

/-- What a step of such collections does to the cursor and to the records that came. -/
inductive Motion (path : String) (collecting next : Collecting) (tail : Tail) : Prop
  | keeps (has : next.collector.tail = some tail) (nothing : next.ingested = collecting.ingested)
  /-- A collection starts where the cursor stands. -/
  | starts (still : next.files = collecting.files)
      (has : next.collector.tail = some (Tail.new path tail.offset true))
      (nothing : next.ingested = collecting.ingested)
  | closes (still : next.files = collecting.files) (has : next.collector.tail = some tail.close)
      (nothing : next.ingested = collecting.ingested)
  /-- A turn brings records. -/
  | gains (still : next.files = collecting.files) {poll : Poll} {records : List Record}
      (polled : poll = tail.poll collecting.files (some collecting.collector.batch))
      (brings : poll.Brings tail records) (has : next.collector.tail = some poll.tail)
      (came : next.ingested = collecting.ingested ++ records)

variable {collecting next : Collecting} {number start : Nat} {path : String} {batch : Int}
  {tail : Tail}

/-- No step changes how many records a turn may bring. -/
theorem Effect.batch_eq (effect : Effect collecting next) :
    next.collector.batch = collecting.collector.batch := by
  cases effect <;> rfl

/-- A step of such collections moves the cursor in one of these ways. -/
theorem Resumes.motion (resumes : Resumes number path collecting next)
    (has : collecting.collector.tail = some tail) : Motion path collecting next tail := by
  -- Of all effects only a start needs to know that the collections follow each other.
  have goesOn := resumes.goesOn
  cases resumes.effect with
  | still files now same => exact .keeps has rfl
  | @started idle asked there offset =>
    -- The offset that is reported is that of the cursor.
    obtain ⟨rfl, reported⟩ := goesOn asked offset rfl
    have stands : tail.offset = offset := by simpa [offset?, has] using reported
    exact .starts rfl (stands ▸ rfl) (by simp [Happening.ingested])
  | stopped running =>
    exact .closes rfl (by simp [Collector.finish, has]) (by simp [Happening.ingested])
  | @gained _ poll records task running hadToo polled brings goesOn =>
    cases has.symm.trans hadToo
    exact .gains rfl polled brings rfl (by simp [Happening.ingested, brings.records_eq])
  | @failed _ poll error running hadToo polled refused answered stays =>
    have nothing := Poll.records_of_error answered
    exact .closes rfl (by simp [Collector.failed, Collector.finish, has])
      (by simp [Happening.ingested, nothing])
  | fetched limit => exact .keeps has (by simp [Happening.ingested])

/-- The records of the frames between an offset and the one that is reported came, and no others. -/
structure Covers (collecting : Collecting) (number : Nat) (offset : Int) (frames : List Frame) :
    Prop where
  begins : frames.flatMap Frame.encode <+:
    (collecting.files.content number).drop offset.toNat
  offset_eq : collecting.offset? = some (offset + Frame.totalSize frames)
  ingested_eq : collecting.ingested = frames.filterMap Frame.known?

/-- The offset that is reported decides what came, as long as the file only grows. -/
theorem Covers.ingested_eq_of_offset {one other : Collecting} {oneNumber otherNumber : Nat}
    {offset : Int} {frames others : List Frame} (covers : one.Covers oneNumber offset frames)
    (otherCovers : other.Covers otherNumber offset others)
    (grows : one.files.content oneNumber <+: other.files.content otherNumber)
    (same : one.offset? = other.offset?) : one.ingested = other.ingested := by
  -- Both stand behind frames of one size that the longer content begins with.
  have begins := covers.begins.trans (Bytes.prefix_drop grows _)
  have sizes : Frame.totalSize frames = Frame.totalSize others := by
    rw [covers.offset_eq, otherCovers.offset_eq, Option.some.injEq] at same
    omega
  rw [covers.ingested_eq, otherCovers.ingested_eq,
    Frame.eq_of_flatMap_prefix begins otherCovers.begins sizes]

/-- The frames that earlier collections passed are followed by those that the latest one passed; the
known ones of all of them came. -/
structure Continues (collecting : Collecting) (number start : Nat) (path : String) (batch : Int)
    (tail : Tail) (before passed later : List Frame) (rest : Bytes) : Prop where
  has : collecting.collector.tail = some tail
  path_eq : tail.path = FilePath.normalize path
  batch_eq : collecting.collector.batch = batch
  begins : before.flatMap Frame.encode <+: (collecting.files.content number).drop start
  follows : tail.Follows collecting.files number (start + Frame.totalSize before) passed later rest
  ingested_eq : collecting.ingested = (before ++ passed).filterMap Frame.known?
  /-- Without room in a batch no frame is passed. -/
  room : before ++ passed ≠ [] → 0 < batch

namespace Continues

variable {before passed later : List Frame} {rest : Bytes}
  (continues : collecting.Continues number start path batch tail before passed later rest)

include continues

/-- All frames from the first offset on are in the order of the collections. -/
theorem split : Frame.Splits ((collecting.files.content number).drop start)
    (before ++ (passed ++ later)) rest := by
  -- The latest collection starts behind the frames of the earlier ones.
  obtain ⟨behind, whole⟩ := continues.begins
  have left := continues.follows.split
  rw [← List.drop_drop, ← whole, List.drop_left' (Frame.length_flatMap_encode _)] at left
  rw [← whole]
  exact (Frame.Splits.of_flatMap before).append (by simpa using left)

/-- The cursor stands behind all frames passed. -/
theorem offset_eq : tail.offset = ((start + Frame.totalSize (before ++ passed) : Nat) : Int) := by
  -- The cursor counts from where the latest collection started.
  have stands := continues.follows.behind.offset_eq
  rw [Frame.totalSize_append]
  omega

/-- What came is what the frames from the first offset on show. -/
theorem covers : collecting.Covers number start (before ++ passed) := by
  refine ⟨?_, ?_, continues.ingested_eq⟩
  · -- The frames to come and the rest are behind those that were passed.
    have whole := continues.split.joined
    rw [← List.append_assoc, List.flatMap_append, List.append_assoc] at whole
    rw [Int.toNat_natCast, whole]
    exact List.prefix_append ..
  · simp [offset?, continues.has, continues.offset_eq]

/-- A cursor that starts where the last one stood comes to the same frames. -/
theorem follows_new (leads : collecting.files.fileNumber (FilePath.normalize path) = .ok number) :
    (Tail.new path tail.offset true).Follows collecting.files number
      (start + Frame.totalSize (before ++ passed)) [] later rest := by
  -- Dropping all frames passed leaves the ones to come.
  have split := continues.split
  rw [← List.append_assoc] at split
  have behind := split.drop_offset (before ++ passed).length
  rw [List.take_left, List.drop_left] at behind
  rw [continues.offset_eq]
  exact .new leads behind

/-- Whatever moves the cursor, the frames that were passed are those from the first offset on. -/
theorem moves (motion : Motion path collecting next tail)
    (resumes : Resumes number path collecting next) (batch_eq : next.collector.batch = batch)
    (skips : tail.skipCorrupt = true) :
    ∃ tail before passed later rest,
      next.Continues number start path batch tail before passed later rest := by
  -- Frames pass from the ones to come to those passed, and from there to those of earlier
  -- collections; what came never changes on the way.
  have leads := resumes.leads
  have begins := continues.begins.trans (Bytes.prefix_drop resumes.grows start)
  cases motion with
  | keeps has nothing =>
    -- The file may have grown behind what was passed.
    obtain ⟨bytes, gains⟩ := resumes.grows
    obtain ⟨more, left, grown⟩ :=
      continues.follows.grow (continues.path_eq ▸ leads) gains.symm
    exact ⟨_, _, _, _, _, has, continues.path_eq, batch_eq, begins, grown,
      nothing.trans continues.ingested_eq, continues.room⟩
  | starts still has nothing =>
    -- What was passed so far was passed by earlier collections from now on.
    have follows := continues.follows_new (still ▸ leads)
    have covered := continues.covers.begins
    rw [← still] at follows covered
    refine ⟨_, before ++ passed, [], later, rest, has, rfl, batch_eq, covered, follows, ?_, ?_⟩
    · rw [List.append_nil]
      exact nothing.trans continues.ingested_eq
    · rw [List.append_nil]
      exact continues.room
  | closes still has nothing =>
    have follows := continues.follows.close
    rw [← still] at follows
    exact ⟨_, _, _, _, _, has, continues.path_eq, batch_eq, begins, follows,
      nothing.trans continues.ingested_eq, continues.room⟩
  | @gains still poll records polled brings has came =>
    -- The file was open or opened, so the poll passed the frames of what it brought.
    subst polled
    obtain ⟨more, left, moved, answered, roomy⟩ := continues.follows.poll_passes
      (fun closed => (Tail.within_of_brings brings closed).2) skips collecting.collector.batch
    have same : more.filterMap Frame.known? = records := by
      simpa [brings.answer_eq, eq_comm] using answered
    refine ⟨_, before, passed ++ more, left, rest, has,
      (Tail.path_poll ..).trans continues.path_eq, batch_eq, begins, ?_, ?_, ?_⟩
    · rw [still]
      exact moved
    · rw [came, continues.ingested_eq, ← same, ← List.filterMap_append, List.append_assoc]
    · intro some
      rw [← List.append_assoc] at some
      by_cases noMore : more = []
      · rw [noMore, List.append_nil] at some
        exact continues.room some
      · exact continues.batch_eq ▸ roomy noMore

end Continues

/-- The file cannot be opened where the collections start, so the cursor never moves. -/
structure Unmoved (collecting : Collecting) (offset : Int) (tail : Tail) : Prop where
  has : collecting.collector.tail = some tail
  closed : tail.reader = none
  offset_eq : tail.offset = offset
  nothing : collecting.ingested = []

/-- Nothing moves the cursor at an offset that no file has. -/
theorem Unmoved.moves {offset : Int} (unmoved : collecting.Unmoved offset tail)
    (outside : offset < 0 ∨ FileReader.offsetLimit ≤ offset)
    (motion : Motion path collecting next tail) : ∃ tail, next.Unmoved offset tail := by
  -- A start and an end keep the offset, so all later collections start there as well.
  have stands := unmoved.offset_eq
  cases motion with
  | keeps has nothing =>
    exact ⟨_, has, unmoved.closed, stands, nothing.trans unmoved.nothing⟩
  | starts still has nothing =>
    exact ⟨_, has, rfl, stands, nothing.trans unmoved.nothing⟩
  | closes still has nothing =>
    exact ⟨_, has, rfl, stands, nothing.trans unmoved.nothing⟩
  | gains still polled brings =>
    -- A poll that brings something has opened the file.
    subst polled
    have within := Tail.within_of_brings brings unmoved.closed
    omega

/-- A collector that was just started, with a history that begins then. -/
def begun (files : FileStore) (now : Instant) (collector : Collector) (path : String)
    (offset : Int) : Collecting :=
  { files, now, collector := collector.started path offset, history := [.started path offset] }

variable {files : FileStore} {now : Instant} {collector : Collector} {later : Collecting}

/-- Collections at an offset that no file has never move. -/
theorem exists_unmoved {offset : Int} (outside : offset < 0 ∨ FileReader.offsetLimit ≤ offset)
    (resumption : Resumption number path (begun files now collector path offset) later) :
    ∃ tail, later.Unmoved offset tail := by
  induction resumption with
  | refl => exact ⟨_, rfl, rfl, rfl, rfl⟩
  | tail earlier resumes ih =>
    obtain ⟨tail, unmoved⟩ := ih
    exact unmoved.moves outside (resumes.motion unmoved.has)

/-- Collections from an offset on pass the frames there one after the other. -/
theorem exists_continues (found : files.fileNumber (FilePath.normalize path) = .ok number)
    (resumption : Resumption number path (begun files now collector path start) later) :
    ∃ tail before passed frames rest,
      later.Continues number start path collector.batch tail before passed frames rest := by
  induction resumption with
  | refl =>
    -- At first nothing was passed.
    obtain ⟨frames, rest, split⟩ := Frame.exists_splits ((files.content number).drop start)
    exact ⟨_, [], [], frames, rest, rfl, rfl, rfl, List.nil_prefix, .new found split, rfl,
      absurd rfl⟩
  | tail earlier resumes ih =>
    -- The frames passed so far stay what they are, whatever the step does.
    obtain ⟨tail, before, passed, frames, rest, continues⟩ := ih
    have orderly := (Resumption.effects earlier).orderly (collector.orderly_started path start)
    have batch_eq := resumes.effect.batch_eq.trans continues.batch_eq
    exact continues.moves (resumes.motion continues.has) resumes batch_eq
      (orderly.skips tail continues.has)

/-- Collections of one file bring the records of the frames between the first offset and the one
that is reported. If there are any, the first offset is one of a file, and a batch has room. -/
theorem exists_covers {offset : Int}
    (found : files.fileNumber (FilePath.normalize path) = .ok number)
    (resumption : Resumption number path (begun files now collector path offset) later) :
    ∃ frames, later.Covers number offset frames ∧ (frames ≠ [] →
      0 ≤ offset ∧ offset < FileReader.offsetLimit ∧ 0 < collector.batch) := by
  by_cases outside : offset < 0 ∨ FileReader.offsetLimit ≤ offset
  · -- No frame is passed, and the offset is still the first one.
    obtain ⟨tail, unmoved⟩ := exists_unmoved outside resumption
    refine ⟨[], ⟨List.nil_prefix, ?_, unmoved.nothing⟩, absurd rfl⟩
    simp [offset?, unmoved.has, unmoved.offset_eq]
  · -- The frames are those of all collections, one after the other.
    obtain ⟨start, rfl⟩ := Int.eq_ofNat_of_zero_le (show 0 ≤ offset by omega)
    obtain ⟨tail, before, passed, frames, rest, continues⟩ := exists_continues found resumption
    refine ⟨before ++ passed, continues.covers, ?_⟩
    intro some
    exact ⟨by omega, by omega, continues.room some⟩

end Collecting

end Unified2
