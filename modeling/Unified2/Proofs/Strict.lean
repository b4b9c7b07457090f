import Mathlib.Data.List.Forall2
import Unified2.Proofs.Following

/-! A strict cursor, whose polls fail at corrupt frames. It passes every frame once as well, but a
poll that fails gives none of the records that it passed on the way to the corrupt frame. -/

namespace Unified2

namespace Poll

/-- Whether the poll failed at a corrupt frame. -/
def raised (poll : Poll) : Bool :=
  match poll.answer with
  | .error (.corrupt _) => true
  | _ => false

/-- What a poll of a strict cursor answers for the frames that it passes. -/
inductive Passes (poll : Poll) : List Frame → Prop
  /-- No frame is corrupt, and the known ones are given. -/
  | gives {frames : List Frame} (sound : ∀ frame ∈ frames, frame.kind? ≠ none)
      (answered : poll.answer = .ok (frames.filterMap Frame.known?)) : Passes poll frames
  /-- The last frame is corrupt, and nothing is given. -/
  | fails {good : List Frame} {bad : Frame} {error : BodyError}
      (sound : ∀ frame ∈ good, frame.kind? ≠ none) (corrupt : bad.decode = .error error)
      (answered : poll.answer = .error (.corrupt error)) : Passes poll (good ++ [bad])
  /-- The file does not open at an offset that no file has. -/
  | refused (far : FileReader.offsetLimit ≤ poll.tail.offset)
      (answered : poll.answer = .error (.file .offsetTooWide)) : Passes poll []

variable {poll : Poll} {segment : List Frame}

/-- A poll that failed at a corrupt frame gives nothing, and any other gives what it passed. -/
theorem Passes.records_eq (passes : poll.Passes segment) :
    poll.records = if poll.raised then [] else segment.filterMap Frame.known? := by
  -- The answer alone decides both.
  cases passes with
  | gives sound answered => simp [records, raised, answered, Except.toOption]
  | fails sound corrupt answered => simp [records, raised, answered, Except.toOption]
  | refused far answered => simp [records, raised, answered, Except.toOption]

/-- A poll fails at a corrupt frame exactly if it passes one. -/
theorem Passes.countP_corrupt (passes : poll.Passes segment) :
    segment.countP (·.kind? = none) = if poll.raised then 1 else 0 := by
  cases passes with
  | gives sound answered => simpa [raised, answered, List.countP_eq_zero] using sound
  | @fails good bad error sound corrupt answered =>
    -- The last frame is corrupt, and none before it.
    have noOther : good.countP (·.kind? = none) = 0 := by
      simpa [List.countP_eq_zero] using sound
    have last : bad.kind? = none := by simp [Frame.kind?, corrupt, Except.toOption]
    rw [List.countP_append, noOther]
    simp [last, raised, answered]
  | refused far answered => simp [raised, answered]

/-- Closing the file after a poll changes nothing of what it passed. -/
theorem Passes.close (passes : poll.Passes segment) :
    Passes { poll with tail := poll.tail.close } segment := by
  cases passes with
  | gives sound answered => exact .gives sound answered
  | fails sound corrupt answered => exact .fails sound corrupt answered
  | refused far answered => exact .refused far answered

end Poll

namespace Following

/-- The cursor passed some of the frames, every poll its own segment of them. -/
structure Strict (following : Following) (number start : Nat) (segments : List (List Frame))
    (later : List Frame) (rest : Bytes) : Prop where
  follows : following.tail.Follows following.files number start segments.flatten later rest
  strict : following.tail.skipCorrupt = false
  passes : List.Forall₂ Poll.Passes following.polls segments

variable {following : Following} {number start : Nat} {segments : List (List Frame)}
  {later : List Frame} {rest : Bytes}

/-- Before anything happens there was no poll, and nothing was passed. -/
theorem strict_new {files : FileStore} {path : String}
    (found : files.fileNumber (FilePath.normalize path) = .ok number)
    (split : Frame.Splits ((files.content number).drop start) later rest) :
    (new files path start false).Strict number start [] later rest :=
  ⟨.new found split, rfl, .nil⟩

/-- A poll of a strict cursor passes frames up to a corrupt one at which it fails. -/
theorem Strict.passes_poll (strict : following.Strict number start segments later rest)
    (limit : Option Int) :
    let poll := following.tail.poll following.files limit
    ∃ segment left, poll.tail.Follows following.files number start
        (segments.flatten ++ segment) left rest ∧ poll.Passes segment := by
  -- The rule of a strict cursor stops a sweep at a corrupt frame.
  intro poll
  have stops : following.tail.rule.stopAtCorrupt = true := by simp [Tail.rule, strict.strict]
  by_cases far : following.tail.reader = none ∧ FileReader.offsetLimit ≤ following.tail.offset
  · -- The file does not open at an offset that no file has, so nothing is passed.
    have polled : poll = _ := strict.follows.poll_of_unrepresentable far.1 far.2 limit
    rw [polled]
    refine ⟨[], later, ?_, .refused far.2 rfl⟩
    rw [List.append_nil]
    exact strict.follows
  · have representable : following.tail.reader = none →
        following.tail.offset < FileReader.offsetLimit := by
      intro closed
      exact Int.not_le.mp fun beyond => far ⟨closed, beyond⟩
    obtain ⟨moved, answered, -⟩ := strict.follows.poll representable limit
    refine ⟨_, _, moved, ?_⟩
    by_cases ended : ∃ error,
        (following.tail.rule.pass (limit.map Int.toNat) later).2 = some (.corrupt error)
    · -- The poll fails at the last frame that it passes.
      obtain ⟨error, ends⟩ := ended
      obtain ⟨good, bad, taken, corrupt, sound⟩ := SweepRule.pass_ends_corrupt stops ends
      rw [ends] at answered
      rw [taken]
      exact .fails sound corrupt answered
    · -- For no other reason does a poll pass a corrupt frame.
      rcases ending : (following.tail.rule.pass (limit.map Int.toNat) later).2 with
        _ | _ | reason | error
      case some.corrupt => exact absurd ⟨error, ending⟩ ended
      all_goals
        have noCorrupt := SweepRule.pass_corrupt stops (limit.map Int.toNat) later
        rw [ending] at answered noCorrupt
        exact .gives (by simpa [List.countP_eq_zero] using noCorrupt) answered

/-- Closing the file keeps what every poll passed. -/
theorem Strict.close (strict : following.Strict number start segments later rest) :
    Strict { following with tail := following.tail.close } number start segments later rest :=
  ⟨strict.follows.close, strict.strict, strict.passes⟩

/-- Whatever happens, every poll passes a segment of its own. -/
theorem Strict.step (strict : following.Strict number start segments later rest)
    {next : Following} (step : Step number following next) :
    ∃ segments later rest, next.Strict number start segments later rest := by
  -- Only a poll passes frames, and those it passes are its own segment.
  cases step with
  | append files bytes leads gains =>
    -- What was passed stays where it was, as the file only grows behind it.
    obtain ⟨more, left, grown⟩ := strict.follows.grow leads gains
    exact ⟨segments, later ++ more, left, grown, strict.strict, strict.passes⟩
  | poll limit =>
    obtain ⟨segment, left, moved, passes⟩ := strict.passes_poll limit
    refine ⟨segments ++ [segment], left, rest, ?_, ?_, ?_⟩
    · rw [List.flatten_append, List.flatten_singleton]
      exact moved
    · exact (Tail.skipCorrupt_poll ..).trans strict.strict
    · exact List.rel_append strict.passes (.cons passes .nil)
  | pollOnce limit =>
    -- This is a poll, and closing after it.
    obtain ⟨segment, left, moved, passes⟩ := strict.passes_poll limit
    refine ⟨segments ++ [segment], left, rest, ?_, ?_, ?_⟩
    · rw [List.flatten_append, List.flatten_singleton]
      exact moved.close
    · exact (Tail.skipCorrupt_poll ..).trans strict.strict
    · exact List.rel_append strict.passes (.cons passes.close .nil)
  | close => exact ⟨_, _, _, strict.close⟩

/-- However long it goes on, every poll passes a segment of its own. -/
theorem Strict.run (strict : following.Strict number start segments later rest)
    {next : Following} (run : Run number following next) :
    ∃ segments later rest, next.Strict number start segments later rest := by
  -- Each step adds at most one segment behind the others.
  induction run with
  | refl => exact ⟨_, _, _, strict⟩
  | tail _ step ih =>
    obtain ⟨_, _, _, before⟩ := ih
    exact before.step step

/-- How many polls failed at a corrupt frame. -/
def failures (following : Following) : Nat := following.polls.countP Poll.raised

/-- The polls fail as often as there are corrupt frames among those they pass. -/
theorem countP_raised {polls : List Poll} (passes : List.Forall₂ Poll.Passes polls segments) :
    polls.countP Poll.raised = segments.flatten.countP (·.kind? = none) := by
  -- Poll by poll, a failure goes with the corrupt frame at the end of the segment.
  induction passes with
  | nil => rfl
  | cons first _ ih =>
    rw [List.countP_cons, List.flatten_cons, List.countP_append, first.countP_corrupt, ih,
      Nat.add_comm]

/-- What the polls give is among the known frames that they pass, in the same order; it is all of
them exactly if no poll passes one and fails. -/
theorem flatMap_records {polls : List Poll} (passes : List.Forall₂ Poll.Passes polls segments) :
    (polls.flatMap Poll.records).Sublist (segments.flatten.filterMap Frame.known?) ∧
      (polls.flatMap Poll.records = segments.flatten.filterMap Frame.known? ↔
        ∀ pair ∈ polls.zip segments, pair.1.raised = true →
          pair.2.filterMap Frame.known? = []) := by
  -- The segments come one after the other, and so do the answers.
  induction passes with
  | nil => simp
  | @cons poll segment polls segments first _ ih =>
    obtain ⟨ordered, complete⟩ := ih
    rw [List.flatMap_cons, List.flatten_cons, List.filterMap_append, first.records_eq]
    simp only [List.zip_cons_cons, List.forall_mem_cons]
    cases raised : poll.raised with
    | false =>
      -- What this poll passes is given.
      rw [if_neg Bool.false_ne_true, List.append_cancel_left_eq, complete]
      exact ⟨(List.Sublist.refl _).append ordered, by simp⟩
    | true =>
      -- Nothing that comes later makes up for what this poll does not give.
      rw [if_pos rfl, List.nil_append, ← complete]
      refine ⟨ordered.trans (List.sublist_append_right ..), ?_, ?_⟩
      · -- The later polls do not give more than they pass, so this one passed nothing known.
        intro same
        have noMore := ordered.length_le
        have lengths := congrArg List.length same
        rw [List.length_append] at lengths
        have nothing : segment.filterMap Frame.known? = [] :=
          List.eq_nil_of_length_eq_zero (by omega)
        rw [nothing, List.nil_append] at same
        exact ⟨fun _ => nothing, same⟩
      · rintro ⟨nothing, same⟩
        rw [nothing rfl, List.nil_append, same]

/-- A strict cursor passes every frame once, each poll a segment of them. A poll gives the known
frames of its segment, or it fails at a corrupt frame at the end of it and gives nothing. So there
is one failure for each corrupt frame; but the polls gave all known frames, in order, only if no
poll that failed had passed one before. -/
theorem strict_following_fails_once_for_corrupt {files : FileStore} {path : String}
    {number start : Nat} (found : files.fileNumber (FilePath.normalize path) = .ok number)
    {following : Following} (run : Run number (new files path start false) following) :
    ∃ segments later rest,
      Frame.Splits ((following.files.content number).drop start)
        (segments.flatten ++ later) rest ∧
      following.tail.Behind start segments.flatten ∧
      List.Forall₂ Poll.Passes following.polls segments ∧
      following.failures = segments.flatten.countP (·.kind? = none) ∧
      following.returned.Sublist (segments.flatten.filterMap Frame.known?) ∧
      (following.returned = segments.flatten.filterMap Frame.known? ↔
        ∀ pair ∈ following.polls.zip segments, pair.1.raised = true →
          pair.2.filterMap Frame.known? = []) := by
  -- At first nothing was passed, and the run keeps the polls to their segments.
  obtain ⟨frames, left, split⟩ := Frame.exists_splits ((files.content number).drop start)
  obtain ⟨segments, later, rest, strict⟩ := (strict_new found split).run run
  have given := flatMap_records strict.passes
  exact ⟨segments, later, rest, strict.follows.split, strict.follows.behind, strict.passes,
    countP_raised strict.passes, given.1, given.2⟩

/-- Of a packet and a corrupt frame, polls of one record give the one and fail at the other. -/
theorem strict_following_fails_once_for_corrupt_by_ones :
    let packet : Frame := ⟨2, List.replicate 28 7, by decide⟩
    let corrupt : Frame := ⟨2, [], by decide⟩
    let files : FileStore :=
      { nodes := [(["log"], .file 0)], contents := [packet.encode ++ corrupt.encode] }
    let fresh := new files "log" 0 false
    let first := fresh.polled (fresh.tail.poll files (some 1))
    let following := first.polled (first.tail.poll files (some 1))
    Run 0 fresh following ∧ following.returned.length = 1 ∧ following.failures = 1 ∧
      ∃ segments later rest, Frame.Splits ((packet.encode ++ corrupt.encode).drop 0)
        (segments.flatten ++ later) rest ∧
        segments.flatten.countP (·.kind? = none) = 1 ∧
        List.Forall₂ Poll.Passes following.polls segments := by
  intro packet corrupt files fresh first following
  have run : Run 0 fresh following :=
    (Relation.ReflTransGen.single (.poll _ (some 1))).tail (.poll _ (some 1))
  have failed : following.failures = 1 := by cbv
  obtain ⟨segments, later, rest, split, -, passes, failures, -⟩ :=
    strict_following_fails_once_for_corrupt
      (show files.fileNumber (FilePath.normalize "log") = .ok 0 by cbv) run
  exact ⟨run, by cbv, failed, segments, later, rest, split, failures.symm.trans failed, passes⟩

/-- A poll without a limit passes and counts the packet, and then fails at the corrupt frame behind
it: the packet is never given. -/
theorem strict_following_drops_packet :
    let packet : Frame := ⟨2, List.replicate 28 7, by decide⟩
    let corrupt : Frame := ⟨2, [], by decide⟩
    let files : FileStore :=
      { nodes := [(["log"], .file 0)], contents := [packet.encode ++ corrupt.encode] }
    let fresh := new files "log" 0 false
    let following := fresh.polled (fresh.tail.poll files none)
    Run 0 fresh following ∧
      Frame.Splits ((following.files.content 0).drop 0) [packet, corrupt] [] ∧
      following.tail.Behind 0 [packet, corrupt] ∧ following.failures = 1 ∧
      following.returned ≠ [packet, corrupt].filterMap Frame.known? := by
  intro packet corrupt files fresh following
  have nothing : following.returned = [] := by cbv
  have one : ([packet, corrupt].filterMap Frame.known?).length = 1 := by cbv
  have whole : (following.files.content 0).drop 0 = [packet, corrupt].flatMap Frame.encode := by
    cbv
  refine ⟨.single (.poll _ none), whole ▸ .of_flatMap _, ⟨by cbv, by cbv⟩, by cbv, ?_⟩
  intro same
  rw [← same, nothing] at one
  cases one

end Following

end Unified2
