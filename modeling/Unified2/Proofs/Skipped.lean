import Unified2.Proofs.Following
import Unified2.Proofs.Log.Setup
import Unified2.Proofs.Record.Listing

/-! What a cursor tells the log: of every frame that it skips, once, in the order of the file. -/

namespace Unified2

/-- Why a frame is skipped. -/
inductive SkipCause
  | unknown (tag : Int)
  | corrupt (error : BodyError)
  deriving DecidableEq, Repr

/-- Whether the cause is that of a frame: its tag names no type, or its body is corrupt. -/
def SkipCause.Fits (frame : Frame) : SkipCause → Prop
  | .unknown tag => tag = frame.tag.toNat ∧ RecordType.ofTag? frame.tag.toNat = none
  | .corrupt error => frame.decode = .error error

/-- A skipped frame: where its header starts, and why it was skipped. -/
structure Skip where
  offset : Nat
  cause : SkipCause
  deriving DecidableEq, Repr

/-- What the log is told of a skipped frame of the file at a path. -/
def Skip.notice (path : String) (skip : Skip) : LogRecord :=
  match skip.cause with
  | .unknown tag => {
      component := Tail.component, level := .debug
      message := s!"skipping unknown record type {tag} at offset {skip.offset}" }
  | .corrupt error => {
      component := Tail.component, level := .warning
      message := s!"skipping corrupt record at offset {skip.offset} in {path}: " ++
        error.message }

/-- What the log is told of skipped frames is told by a part of the root, and severe enough for a
log that is set up for everything. -/
theorem Skip.isPart_notice (path : String) (skip : Skip) :
    LogSetup.IsPart (skip.notice path).component ∧
      LogLevel.debug.severity ≤ (skip.notice path).level.severity := by
  -- Neither the component nor the levels depend on the frame.
  have part : LogSetup.IsPart Tail.component :=
    LogSetup.isPart_of_toList (show _ = _ ++ '.' :: "core.tail".toList by decide) (by decide)
  obtain ⟨offset, _ | _⟩ := skip
  · exact ⟨part, Nat.le_refl _⟩
  · exact ⟨part, show LogLevel.debug.severity ≤ LogLevel.warning.severity by decide⟩

/-- The skipped frame that was seen, if it was one. -/
def Sighting.skip? (sighting : Sighting) : Option Skip :=
  match sighting.outcome with
  | .ok (.unknown tag) => some ⟨sighting.offset, .unknown tag⟩
  | .ok _ => none
  | .error error => some ⟨sighting.offset, .corrupt error⟩

/-- What the frame turned out to be that is skipped for a cause. -/
def SkipCause.outcome : SkipCause → Except BodyError Record
  | .unknown tag => .ok (.unknown tag)
  | .corrupt error => .error error

/-- What was seen is skipped where it was seen, and for what it turned out to be. -/
theorem Sighting.skip?_eq_some_iff {sighting : Sighting} {skip : Skip} :
    sighting.skip? = some skip ↔
      skip.offset = sighting.offset ∧ skip.cause.outcome = sighting.outcome := by
  obtain ⟨offset, outcome⟩ := sighting
  obtain ⟨place, cause⟩ := skip
  -- A record of a known type is the outcome of no cause.
  rcases outcome with error | _ | _ | _ | tag <;> cases cause <;>
    simp [skip?, SkipCause.outcome, eq_comm]

/-- The outcome of a frame is that of a cause exactly if the cause is its own. -/
theorem SkipCause.outcome_eq_decode_iff {cause : SkipCause} {frame : Frame} :
    cause.outcome = frame.decode ↔ cause.Fits frame := by
  cases cause with
  | unknown tag => exact eq_comm.trans Record.decode_eq_unknown_iff
  | corrupt error => exact eq_comm

namespace Frame

/-- The skipped ones of frames that stand one after the other from an offset on. -/
def skips (offset : Nat) (frames : List Frame) : List Skip :=
  (sightings offset frames).filterMap Sighting.skip?

/-- The skipped ones of more frames stand behind those of the frames before. -/
theorem skips_append (offset : Nat) (frames more : List Frame) :
    skips offset (frames ++ more) =
      skips offset frames ++ skips (offset + totalSize frames) more := by
  rw [skips, sightings_append, List.filterMap_append]
  rfl

/-- A skipped frame is one of the frames, and is listed where its header starts. -/
theorem mem_skips_iff {offset : Nat} {frames : List Frame} {skip : Skip} :
    skip ∈ skips offset frames ↔ ∃ before frame behind, frames = before ++ frame :: behind ∧
      skip.offset = offset + totalSize before ∧ skip.cause.Fits frame := by
  constructor
  · intro listed
    obtain ⟨sighting, seen, skipped⟩ := List.mem_filterMap.mp listed
    obtain ⟨before, frame, behind, same, rfl⟩ := mem_sightings_iff.mp seen
    obtain ⟨stands, shows⟩ := Sighting.skip?_eq_some_iff.mp skipped
    exact ⟨before, frame, behind, same, stands, SkipCause.outcome_eq_decode_iff.mp shows⟩
  · rintro ⟨before, frame, behind, same, stands, fits⟩
    apply List.mem_filterMap.mpr
    refine ⟨_, mem_sightings_iff.mpr ⟨before, frame, behind, same, rfl⟩, ?_⟩
    exact Sighting.skip?_eq_some_iff.mpr ⟨stands, SkipCause.outcome_eq_decode_iff.mpr fits⟩

/-- No two skipped frames stand at the same offset, and the first in the file comes first. -/
theorem pairwise_skips (offset : Nat) (frames : List Frame) :
    (skips offset frames).Pairwise (·.offset < ·.offset) := by
  refine (pairwise_sightings offset frames).filterMap _ ?_
  intro first second before skip skipped other too
  -- Both are listed where they were seen.
  rw [(Sighting.skip?_eq_some_iff.mp skipped).1, (Sighting.skip?_eq_some_iff.mp too).1]
  exact before

end Frame

namespace Tail

/-- A cursor that skips corrupt frames tells the log of what it skips, and of nothing else. -/
theorem filterMap_notice? {tail : Tail} (skips : tail.skipCorrupt = true) (offset : Nat)
    (frames : List Frame) :
    (Frame.sightings offset frames).filterMap tail.notice? =
      (Frame.skips offset frames).map (Skip.notice tail.path) := by
  rw [Frame.skips, List.map_filterMap]
  refine List.filterMap_congr ?_
  rintro ⟨place, outcome⟩ -
  -- It is told of the same outcomes, in the same words.
  rcases outcome with error | _ | _ | _ | tag <;>
    simp [notice?, Sighting.skip?, Skip.notice, skips]

/-- A poll that skips corrupt frames passes some of the frames to come, and tells the log of those
that it skips. -/
theorem Follows.poll_tells {store : FileStore} {number start : Nat} {tail : Tail}
    {passed later : List Frame} {rest : Bytes}
    (follows : tail.Follows store number start passed later rest)
    (skips : tail.skipCorrupt = true) (limit : Option Int) :
    ∃ more left, later = more ++ left ∧
      (tail.poll store limit).tail.Follows store number start (passed ++ more) left rest ∧
      (tail.poll store limit).log =
        (Frame.skips (start + Frame.totalSize passed) more).map (Skip.notice tail.path) := by
  by_cases far : tail.reader = none ∧ FileReader.offsetLimit ≤ tail.offset
  · -- The file does not open at an offset that no file has, so nothing is passed or told.
    rw [follows.poll_of_unrepresentable far.1 far.2 limit]
    refine ⟨[], later, rfl, ?_, rfl⟩
    rw [List.append_nil]
    exact follows
  · have representable : tail.reader = none → tail.offset < FileReader.offsetLimit := by
      intro closed
      exact Int.not_le.mp fun beyond => far ⟨closed, beyond⟩
    obtain ⟨moved, -⟩ := follows.poll representable limit
    refine ⟨_, _, (List.take_append_drop _ later).symm, moved, ?_⟩
    rw [follows.log_poll representable limit, filterMap_notice? skips]

end Tail

namespace Following

/-- What all polls told the log, in the order they did. -/
def told (following : Following) : List LogRecord := following.polls.flatMap Poll.log

/-- One more poll tells the log after those there were. -/
theorem told_polled (following : Following) (poll : Poll) :
    (following.polled poll).told = following.told ++ poll.log := by
  simp [told, polled]

/-- The cursor passed some of the frames of the file at its path, and the polls told the log of
those that it skipped. -/
structure Traced (following : Following) (path : String) (number start : Nat)
    (passed later : List Frame) (rest : Bytes) : Prop where
  follows : following.tail.Follows following.files number start passed later rest
  skips : following.tail.skipCorrupt = true
  path_eq : following.tail.path = path
  told_eq : following.told = (Frame.skips start passed).map (Skip.notice path)

variable {following : Following} {path : String} {number start : Nat} {passed later : List Frame}
  {rest : Bytes}

/-- Before anything happens nothing was passed, and nothing told. -/
theorem traced_new {files : FileStore}
    (found : files.fileNumber (FilePath.normalize path) = .ok number)
    (split : Frame.Splits ((files.content number).drop start) later rest) :
    (new files path start true).Traced (FilePath.normalize path) number start [] later rest :=
  ⟨.new found split, rfl, rfl, rfl⟩

/-- A poll tells the log of the frames that it skips, behind what was told before. -/
theorem Traced.poll (traced : following.Traced path number start passed later rest)
    (limit : Option Int) :
    ∃ more left, (following.polled (following.tail.poll following.files limit)).Traced path
      number start (passed ++ more) left rest := by
  obtain ⟨more, left, -, moved, tells⟩ := traced.follows.poll_tells traced.skips limit
  refine ⟨more, left, moved, ?_, ?_, ?_⟩
  · exact (Tail.skipCorrupt_poll ..).trans traced.skips
  · exact (Tail.path_poll ..).trans traced.path_eq
  · rw [told_polled, traced.told_eq, tells, traced.path_eq, Frame.skips_append, List.map_append]

/-- Whatever happens, the polls told the log of the frames that the cursor skipped. -/
theorem Traced.step (traced : following.Traced path number start passed later rest)
    {next : Following} (step : Step number following next) :
    ∃ passed later rest, next.Traced path number start passed later rest := by
  -- Only a poll tells the log anything.
  cases step with
  | append files bytes leads gains =>
    -- What was passed stays where it was, as the file only grows behind it.
    obtain ⟨more, left, grown⟩ := traced.follows.grow leads gains
    exact ⟨passed, later ++ more, left, grown, traced.skips, traced.path_eq, traced.told_eq⟩
  | poll limit =>
    obtain ⟨more, left, polled⟩ := traced.poll limit
    exact ⟨_, _, _, polled⟩
  | pollOnce limit =>
    -- This is a poll, and closing after it tells nothing.
    obtain ⟨more, left, polled⟩ := traced.poll limit
    refine ⟨_, _, _, polled.follows.close, polled.skips, polled.path_eq, ?_⟩
    have tells := polled.told_eq
    rw [told_polled] at tells ⊢
    exact tells
  | close =>
    exact ⟨_, _, _, traced.follows.close, traced.skips, traced.path_eq, traced.told_eq⟩

/-- However long it goes on, the polls told the log of the frames that the cursor skipped. -/
theorem Traced.run (traced : following.Traced path number start passed later rest)
    {next : Following} (run : Run number following next) :
    ∃ passed later rest, next.Traced path number start passed later rest := by
  -- Each step tells of the frames that it passes, if any, behind those told of before.
  induction run with
  | refl => exact ⟨_, _, _, traced⟩
  | tail _ step ih =>
    obtain ⟨_, _, _, before⟩ := ih
    exact before.step step

/-- A cursor that skips corrupt frames told the log, once and in the order of the file, of every
frame that it passed and that is corrupt or of an unknown type, each with the offset of its header;
a log set up for everything wrote one line for each. Whatever the next poll tells is about frames
behind those. -/
theorem log_tells_of_skipped {files : FileStore} {path : String} {number start : Nat}
    (found : files.fileNumber (FilePath.normalize path) = .ok number) {following : Following}
    (run : Run number (new files path start true) following) :
    let notice := Skip.notice (FilePath.normalize path)
    ∃ (passed later : List Frame) (rest : Bytes) (skips : List Skip),
      Frame.Splits ((following.files.content number).drop start) (passed ++ later) rest ∧
      following.tail.Behind start passed ∧
      skips.Pairwise (·.offset < ·.offset) ∧
      (∀ skip, skip ∈ skips ↔ ∃ before frame behind, passed = before ++ frame :: behind ∧
        skip.offset = start + Frame.totalSize before ∧ skip.cause.Fits frame) ∧
      following.told = skips.map notice ∧
      (∀ timestamp, (LogSetup.heed {} LogLevel.debug.severity).lines timestamp following.told =
        skips.map fun skip => (notice skip).line timestamp) ∧
      ∀ limit poll, poll = following.tail.poll following.files limit ∨
          poll = following.tail.pollOnce following.files limit →
        ∃ more left, later = more ++ left ∧ poll.tail.Behind start (passed ++ more) ∧
          poll.log = (Frame.skips (start + Frame.totalSize passed) more).map notice := by
  intro notice
  -- At first no frame was passed, and the run keeps the log to what was skipped.
  obtain ⟨frames, left, split⟩ := Frame.exists_splits ((files.content number).drop start)
  obtain ⟨passed, later, rest, traced⟩ := (traced_new found split).run run
  refine ⟨passed, later, rest, Frame.skips start passed, traced.follows.split,
    traced.follows.behind, Frame.pairwise_skips start passed, fun _ => Frame.mem_skips_iff,
    traced.told_eq, ?_, ?_⟩
  · intro timestamp
    have severe : ∀ record ∈ following.told, LogSetup.IsPart record.component ∧
        (LogSetup.heed {} LogLevel.debug.severity).least ≤ record.level.severity := by
      intro record told
      rw [traced.told_eq] at told
      obtain ⟨skip, -, rfl⟩ := List.mem_map.mp told
      exact skip.isPart_notice _
    rw [LogSetup.lines_eq_map rfl (LogSetup.consistent_heed _ _) severe, traced.told_eq,
      List.map_map]
    rfl
  · intro limit poll either
    obtain ⟨more, left, ahead, moved, tells⟩ := traced.follows.poll_tells traced.skips limit
    rw [traced.path_eq] at tells
    refine ⟨more, left, ahead, ?_⟩
    -- Closing the file changes neither what was passed nor what was told.
    rcases either with rfl | rfl
    · exact ⟨moved.behind, tells⟩
    · exact ⟨moved.close.behind, tells⟩

/-- An unknown frame is told of at once, and a corrupt one behind it when the rest of it was
appended; the first one is not told of again then. -/
theorem log_tells_of_skipped_across_cut :
    let unknown : Frame := ⟨9, [], by decide⟩
    let corrupt : Frame := ⟨2, [], by decide⟩
    let before : FileStore :=
      { nodes := [(["log"], .file 0)], contents := [unknown.encode ++ corrupt.encode.take 5] }
    let after : FileStore := { before with contents := [unknown.encode ++ corrupt.encode] }
    let fresh := new before "log" 0 true
    let waiting := fresh.polled (fresh.tail.poll before none)
    let following := { waiting with files := after }.polled (waiting.tail.pollOnce after none)
    let messages : List String := [
      "skipping unknown record type 9 at offset 0",
      "skipping corrupt record at offset 8 in log: " ++
        "record type 2: need 28 bytes at offset 0, body has 0"]
    Run 0 fresh following ∧ following.told.map LogRecord.message = messages ∧
      ∃ (passed later : List Frame) (rest : Bytes) (skips : List Skip),
        Frame.Splits (unknown.encode ++ corrupt.encode) (passed ++ later) rest ∧
        following.tail.Behind 0 passed ∧ skips.length = 2 ∧
        following.told = skips.map (Skip.notice (FilePath.normalize "log")) := by
  intro unknown corrupt before after fresh waiting following messages
  -- A poll, the rest of the corrupt frame, and another poll.
  have run : Run 0 fresh following :=
    ((Relation.ReflTransGen.single (.poll _ none)).tail
      (.append waiting after (corrupt.encode.drop 5) (by cbv) (by cbv))).tail (.pollOnce _ none)
  have opened : (Tail.new "log" 0 true).openReader before = .ok { number := 0, fetched := 0 } := by
    cbv
  have tells : following.told.map LogRecord.message = messages := by
    simp only [following, waiting, fresh, new, Tail.poll_eq_pollOf opened]
    decide +kernel
  obtain ⟨passed, later, rest, skips, split, behind, -, -, told, -⟩ :=
    log_tells_of_skipped (show before.fileNumber (FilePath.normalize "log") = .ok 0 by cbv) run
  have two : skips.length = 2 := by
    rw [told] at tells
    simpa [messages] using congrArg List.length tells
  exact ⟨run, tells, passed, later, rest, skips, split, behind, two, told⟩

end Following

end Unified2
