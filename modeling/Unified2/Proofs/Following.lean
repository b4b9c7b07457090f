import Unified2.Proofs.Tail

/-! Following a file that only grows loses no record and brings none twice. -/

namespace Unified2

/-- A cursor with the files it reads, and how the polls went so far. -/
structure Following where
  files : FileStore
  tail : Tail
  -- Every poll is remembered with its answer and what it told the log.
  polls : List Poll := []

namespace Following

/-- A cursor that is about to follow the file at a path. -/
def new (files : FileStore) (path : String) (start : Int) (skipCorrupt : Bool) : Following :=
  { files, tail := Tail.new path start skipCorrupt }

/-- The cursor after one more poll. -/
def polled (following : Following) (poll : Poll) : Following :=
  { following with tail := poll.tail, polls := following.polls ++ [poll] }

/-- The records of all polls that gave any, in the order they came. -/
def returned (following : Following) : List Record :=
  -- A poll that failed gave none.
  following.polls.flatMap fun poll => poll.answer.toOption.getD []

/-- What can happen while a cursor follows the file with a number. -/
inductive Step (number : Nat) : Following → Following → Prop
  /-- The file gains bytes, and whatever else changes keeps it at its path. -/
  | append (following : Following) (files : FileStore) (bytes : Bytes)
      (leads : files.fileNumber following.tail.path = .ok number)
      (gains : files.content number = following.files.content number ++ bytes) :
      Step number following { following with files }
  | poll (following : Following) (limit : Option Int) :
      Step number following (following.polled (following.tail.poll following.files limit))
  | pollOnce (following : Following) (limit : Option Int) :
      Step number following (following.polled (following.tail.pollOnce following.files limit))
  | close (following : Following) :
      Step number following { following with tail := following.tail.close }

/-- Everything that happens in some order, any number of times. -/
abbrev Run (number : Nat) : Following → Following → Prop := Relation.ReflTransGen (Step number)

/-- Appending at any path that leads to the file is one of the things that can happen. -/
theorem Step.of_append {following : Following} {number : Nat} {path : String} {bytes : Bytes}
    (follows : following.files.fileNumber following.tail.path = .ok number)
    (leads : following.files.fileNumber path = .ok number)
    (held : number < following.files.contents.length) :
    ∃ files, following.files.append path bytes = .ok files ∧
      Step number following { following with files } := by
  obtain ⟨files, appended, gains, same⟩ := FileStore.exists_append leads held bytes
  exact ⟨files, appended, .append following files bytes ((same _).trans follows) gains⟩

/-- One more poll brings its records after those there were. -/
theorem returned_polled (following : Following) (poll : Poll) :
    (following.polled poll).returned = following.returned ++ poll.answer.toOption.getD [] := by
  simp [returned, polled]

/-- The cursor passed some of the frames, and the polls brought the known ones of them. -/
structure Exact (following : Following) (number start : Nat) (passed later : List Frame)
    (rest : Bytes) : Prop where
  follows : following.tail.Follows following.files number start passed later rest
  skips : following.tail.skipCorrupt = true
  returned_eq : following.returned = passed.filterMap Frame.known?

variable {following : Following} {number start : Nat} {passed later : List Frame} {rest : Bytes}

/-- Before anything happens nothing was passed, and nothing brought. -/
theorem exact_new {files : FileStore} {path : String}
    (found : files.fileNumber (FilePath.normalize path) = .ok number)
    (split : Frame.Splits ((files.content number).drop start) later rest) :
    (new files path start true).Exact number start [] later rest :=
  ⟨.new found split, rfl, rfl⟩

/-- A poll that skips corrupt frames brings the known ones of those it passes. -/
theorem Exact.poll (exact : following.Exact number start passed later rest)
    (limit : Option Int) :
    ∃ more left, (following.polled (following.tail.poll following.files limit)).Exact
      number start (passed ++ more) left rest := by
  have goesOn : (following.tail.poll following.files limit).tail.skipCorrupt = true := by
    rw [Tail.skipCorrupt_poll, exact.skips]
  by_cases far : following.tail.reader = none ∧ FileReader.offsetLimit ≤ following.tail.offset
  · -- The file does not open at an offset that no file has, so nothing is passed.
    have polled := exact.follows.poll_of_unrepresentable far.1 far.2 limit
    rw [polled] at goesOn ⊢
    refine ⟨[], later, ⟨?_, goesOn, ?_⟩⟩
    · rw [List.append_nil]
      exact exact.follows
    · rw [returned_polled, exact.returned_eq, List.append_nil]
      exact List.append_nil _
  · have representable : following.tail.reader = none →
        following.tail.offset < FileReader.offsetLimit := by
      intro closed
      exact Int.not_le.mp fun beyond => far ⟨closed, beyond⟩
    cases limit with
    | none =>
      -- All frames are passed.
      obtain ⟨moved, answered, -⟩ := exact.follows.poll_all representable exact.skips
      refine ⟨later, [], ⟨moved, goesOn, ?_⟩⟩
      rw [returned_polled, answered, exact.returned_eq, List.filterMap_append]
      rfl
    | some most =>
      -- The frames passed are those that the limit leaves room for.
      obtain ⟨count, -, moved, records, answered, -⟩ :=
        exact.follows.poll_some representable exact.skips most
      refine ⟨later.take count, later.drop count, ⟨moved, goesOn, ?_⟩⟩
      rw [returned_polled, answered, exact.returned_eq, List.filterMap_append, records]
      rfl

/-- Closing the file keeps what was passed and what was brought. -/
theorem Exact.close (exact : following.Exact number start passed later rest) :
    Exact { following with tail := following.tail.close } number start passed later rest :=
  ⟨exact.follows.close, exact.skips, exact.returned_eq⟩

/-- Whatever happens, the polls brought the known ones of the frames the cursor passed. -/
theorem Exact.step (exact : following.Exact number start passed later rest) {next : Following}
    (step : Step number following next) :
    ∃ passed later rest, next.Exact number start passed later rest := by
  -- Nothing but a poll passes frames or brings records.
  cases step with
  | append files bytes leads gains =>
    -- What was passed stays where it was, as the file only grows behind it.
    obtain ⟨more, left, grown⟩ := exact.follows.grow leads gains
    exact ⟨passed, later ++ more, left, grown, exact.skips, exact.returned_eq⟩
  | poll limit =>
    obtain ⟨more, left, polled⟩ := exact.poll limit
    exact ⟨_, _, _, polled⟩
  | pollOnce limit =>
    -- This is a poll, and closing after it.
    obtain ⟨more, left, polled⟩ := exact.poll limit
    have closed := polled.close
    refine ⟨_, _, _, closed.follows, closed.skips, ?_⟩
    have brought := polled.returned_eq
    rw [returned_polled] at brought ⊢
    exact brought
  | close => exact ⟨_, _, _, exact.close⟩

/-- However long it goes on, the polls brought the known ones of the frames the cursor passed. -/
theorem Exact.run (exact : following.Exact number start passed later rest) {next : Following}
    (run : Run number following next) :
    ∃ passed later rest, next.Exact number start passed later rest := by
  -- Each step keeps the cursor exact, for some way to tell passed frames from later ones.
  induction run with
  | refl => exact ⟨_, _, _, exact⟩
  | tail _ step ih =>
    obtain ⟨_, _, _, before⟩ := ih
    exact before.step step

/-- Without a limit a poll brings all records to come and reaches what is left behind the frames;
with one it brings as many records as it may, and reaches the rest if they do not fill it up. -/
def Serves (following : Following) (start : Nat) (passed later : List Frame) (rest : Bytes)
    (limit : Option Int) (poll : Poll) : Prop :=
  let coming := later.filterMap Frame.known?
  match limit with
  | none =>
    poll.answer = .ok coming ∧ poll.tail.Behind start (passed ++ later) ∧
      poll.tail.shortfall = some (.ofRest rest)
  | some most =>
    ∃ records, poll.answer = .ok records ∧ records <+: coming ∧
      (records.length : Int) = min (max most 0) coming.length ∧
      poll.tail.shortfall =
        if max most 0 ≤ coming.length then following.tail.shortfall else some (.ofRest rest)

/-- A poll of a file whose offsets all fit serves what comes next. -/
theorem Exact.serves (exact : following.Exact number start passed later rest)
    (representable : (start : Int) < FileReader.offsetLimit)
    (fits : ((following.files.content number).length : Int) < FileReader.offsetLimit)
    (limit : Option Int) :
    following.Serves start passed later rest limit
      (following.tail.poll following.files limit) := by
  -- The cursor stands in the file or where it started, so the file opens there.
  have stands := exact.follows.offset_le
  have opens : following.tail.reader = none → following.tail.offset < FileReader.offsetLimit := by
    intro _
    omega
  cases limit with
  | none =>
    obtain ⟨moved, answered, told⟩ := exact.follows.poll_all opens exact.skips
    exact ⟨answered, moved.behind, told⟩
  | some most =>
    obtain ⟨count, -, -, -, answered, told⟩ := exact.follows.poll_some opens exact.skips most
    refine ⟨_, answered, List.take_prefix .., ?_, ?_⟩
    · -- As many records come as there are and may come.
      rw [List.length_take]
      omega
    · -- The limit is a whole number, and one below zero is as good as zero.
      have same : max most 0 ≤ ((later.filterMap Frame.known?).length : Int) ↔
          most.toNat ≤ (later.filterMap Frame.known?).length := by omega
      by_cases full : most.toNat ≤ (later.filterMap Frame.known?).length
      · rw [if_pos full] at told
        rw [if_pos (same.mpr full), told]
      · rw [if_neg full] at told
        rw [if_neg (mt same.mp full), told.2]

/-- A cursor that skips corrupt frames stands behind frames that it counted and whose known records
the polls brought, whatever happened; and a poll then brings what comes next, all that it may. -/
theorem following_is_exact {files : FileStore} {path : String} {number start : Nat}
    (found : files.fileNumber (FilePath.normalize path) = .ok number)
    (representable : (start : Int) < FileReader.offsetLimit) {following : Following}
    (run : Run number (new files path start true) following) :
    ∃ passed later rest,
      Frame.Splits ((following.files.content number).drop start) (passed ++ later) rest ∧
      following.tail.Behind start passed ∧
      following.returned = passed.filterMap Frame.known? ∧
      (((following.files.content number).length : Int) < FileReader.offsetLimit → ∀ limit,
        following.Serves start passed later rest limit
            (following.tail.poll following.files limit) ∧
          following.Serves start passed later rest limit
            (following.tail.pollOnce following.files limit)) := by
  -- At first no frame was passed, and the run keeps the cursor exact.
  obtain ⟨frames, left, split⟩ := Frame.exists_splits ((files.content number).drop start)
  obtain ⟨passed, later, rest, exact⟩ := (exact_new found split).run run
  refine ⟨passed, later, rest, exact.follows.split, exact.follows.behind, exact.returned_eq, ?_⟩
  intro fits limit
  have served := exact.serves representable fits limit
  refine ⟨served, ?_⟩
  -- Closing the file changes neither the answer nor what was passed.
  cases limit with
  | none => exact ⟨served.1, ⟨served.2.1.offset_eq, served.2.1.tally_eq⟩, served.2.2⟩
  | some most => exact served

/-- A packet whose frame is cut at first comes with the poll after the rest of it was appended. -/
theorem following_is_exact_of_cut_frame :
    let frame : Bytes := Frame.encode ⟨2, List.replicate 28 7, by decide⟩
    let before : FileStore := { nodes := [(["log"], .file 0)], contents := [frame.take 20] }
    let after : FileStore := { before with contents := [frame] }
    let waiting := (new before "log" 0 true).polled ((Tail.new "log" 0 true).poll before none)
    let following := { waiting with files := after }.polled
      (waiting.tail.pollOnce after (some 1))
    Run 0 (new before "log" 0 true) following ∧ waiting.returned = [] ∧
      following.returned.length = 1 ∧
      ∃ passed later rest, Frame.Splits (frame.drop 0) (passed ++ later) rest ∧
        following.tail.Behind 0 passed ∧ following.returned = passed.filterMap Frame.known? := by
  intro frame before after waiting following
  -- A poll, the rest of the frame, and a poll of one record at most.
  have run : Run 0 (new before "log" 0 true) following :=
    ((Relation.ReflTransGen.single (.poll _ none)).tail
      (.append waiting after (frame.drop 20) (by cbv) (by cbv))).tail (.pollOnce _ (some 1))
  obtain ⟨passed, later, rest, split, behind, returned, -⟩ :=
    following_is_exact (show before.fileNumber (FilePath.normalize "log") = .ok 0 by cbv)
      (by decide) run
  exact ⟨run, by cbv, by cbv, passed, later, rest, split, behind, returned⟩

end Following

end Unified2
