import Unified2.Proofs.Page
import Unified2.Proofs.Tail
import Unified2.Session

/-! What a session keeps of a request whose file does not open: of a poll nothing, and of a page
only that there was a call. -/

namespace Unified2

namespace Session

variable {session : Session}

/-- Whether this is the answer of a poll whose file did not open. -/
def isUnopened : Except CommandError Answer → Bool
  | .ok (.polled (.error (.file _)) _) => true
  | _ => false

/-- The commands that are not polls whose file does not open when it is their turn. -/
def opening : Session → List Command → List Command
  | _, [] => []
  | session, command :: rest =>
    -- Whether a file opens depends on what was done before.
    let (answer, after) := session.step command
    if isUnopened answer then opening after rest else command :: opening after rest

/-- To tell the log nothing changes nothing. -/
@[simp] theorem note_nil : session.note [] = session := by simp [note]

/-- A session that was told of a poll says whether the file of that poll opened. -/
theorem isUnopened_afterPoll (poll : Poll) :
    isUnopened (session.afterPoll poll).1 = true ↔ ∃ error, poll.answer = .error (.file error) := by
  -- A corrupt frame is the only other failure of a poll.
  unfold afterPoll isUnopened
  rcases poll.answer with (_ | _) | _ <;> simp

/-- After a poll that changed nothing the session is as it was. -/
theorem afterPoll_of_refused {tail : Tail} (has : session.tail = some tail) (error : FileError) :
    session.afterPoll { answer := .error (.file error), tail, log := [] } =
      (.ok (.polled (.error (.file error)) tail.offset), session) := by
  simp [afterPoll, ← has]

/-- A poll, whether it also closes the file or not. -/
def IsPoll (command : Command) : Prop :=
  -- How many records it may bring makes no difference to whether the file opens.
  ∃ limit, command = .pollTail limit ∨ command = .pollTailOnce limit

/-- A poll finds its file unopened exactly if it does not open. -/
theorem isUnopened_step_iff {tail : Tail} (has : session.tail = some tail) {command : Command}
    (polls : IsPoll command) :
    isUnopened (session.step command).1 = true ↔
      ∃ error, tail.openReader session.files = .error error := by
  -- To close the file afterwards changes nothing about the answer.
  obtain ⟨limit, rfl | rfl⟩ := polls <;>
    simp only [step, withTail, has, isUnopened_afterPoll, Tail.pollOnce,
      Tail.answer_poll_eq_file_iff]

/-- A poll whose file does not open answers that, and leaves the session as it was. -/
theorem step_of_refused {tail : Tail} (has : session.tail = some tail) {command : Command}
    (polls : IsPoll command) {error : FileError}
    (refused : tail.openReader session.files = .error error) :
    session.step command = (.ok (.polled (.error (.file error)) tail.offset), session) := by
  obtain ⟨limit, rfl | rfl⟩ := polls <;>
    simp only [step, withTail, has, Tail.poll_of_refused refused, Tail.pollOnce_of_refused refused,
      afterPoll_of_refused has]

/-- No other command answers that a file did not open for a poll. -/
theorem isPoll_of_isUnopened {command : Command}
    (unopened : isUnopened (session.step command).1 = true) :
    IsPoll command ∧ ∃ tail, session.tail = some tail := by
  -- Without a cursor a poll is answered, too, but with nothing.
  cases command
  case pollTail limit =>
    refine ⟨⟨limit, .inl rfl⟩, ?_⟩
    cases has : session.tail with
    | none => simp [step, withTail, has, isUnopened] at unopened
    | some tail => exact ⟨tail, rfl⟩
  case pollTailOnce limit =>
    refine ⟨⟨limit, .inr rfl⟩, ?_⟩
    cases has : session.tail with
    | none => simp [step, withTail, has, isUnopened] at unopened
    | some tail => exact ⟨tail, rfl⟩
  -- No other command answers with a poll at all.
  all_goals
    exfalso
    revert unopened
    simp only [step, changeFiles, withTail, withCollector, newHost, callTool]
    repeat' split
    all_goals simp [isUnopened]

/-- A command that found its file unopened leaves the session as it was. -/
theorem step_of_isUnopened {command : Command}
    (unopened : isUnopened (session.step command).1 = true) :
    (session.step command).2 = session := by
  -- It was a poll of a cursor that stays where it is.
  obtain ⟨polls, tail, has⟩ := isPoll_of_isUnopened unopened
  obtain ⟨error, refused⟩ := (isUnopened_step_iff has polls).mp unopened
  rw [step_of_refused has polls refused]

/-- To run commands is to carry out the first one and to run the others after it. -/
theorem run_cons (command : Command) (rest : List Command) :
    session.run (command :: rest) =
      ((session.step command).1 :: ((session.step command).2.run rest).1,
        ((session.step command).2.run rest).2) := rfl

/-- A run goes as it goes without the polls whose file does not open. -/
theorem run_opening (session : Session) (commands : List Command) :
    session.run (session.opening commands) =
      ((session.run commands).1.filter (!isUnopened ·), (session.run commands).2) := by
  -- The induction follows the run, so each command meets the session that the run has reached.
  induction commands generalizing session with
  | nil => rfl
  | cons command rest ih =>
    have later := ih (session.step command).2
    cases unopened : isUnopened (session.step command).1 with
    | true =>
      -- The later commands find the session as this one did.
      rw [step_of_isUnopened unopened] at later
      simp [opening, run_cons, unopened, step_of_isUnopened unopened, later]
    | false => simp [opening, run_cons, unopened, later]

/-- A reader of pages fails exactly if the file does not open, and is called all the same. -/
theorem step_readPage (path : String) (offset limit : Int) :
    let asked := session.step (.readPage path offset limit)
    ((∃ error, asked.1 = .error error) ↔
        ∃ error, FileReader.openAt session.files path offset = .error error) ∧
      ((∃ error, asked.1 = .error error) →
        asked.2 = { session with
          reader := { session.reader with calls := session.reader.calls + 1 } }) := by
  cases opened : FileReader.openAt session.files path offset with
  | error error =>
    have refused : session.reader.read session.files path offset limit =
        (.error error, { session.reader with calls := session.reader.calls + 1 }, []) := by
      simp [PageReader.read, PageReader.page, opened, bind, Except.bind]
    simp [step, refused]
  | ok reader =>
    -- There is a page, whatever the file holds.
    have answered := PageReader.page_eq_pageOf opened limit
    simp [step, PageReader.read, answered]

/-- A poll fails because of the file exactly if the file is not open, and is not there or the cursor
stands at an offset of none; the session is as it was then, and goes on as it would without the
poll, however many of them there are. A page fails for the same reasons, and is counted as a call
only. -/
theorem failed_opens_leave_no_trace (session : Session) :
    (∀ tail command, session.tail = some tail → IsPoll command →
      (isUnopened (session.step command).1 = true ↔
        tail.reader = none ∧ (tail.offset < 0 ∨ FileReader.offsetLimit ≤ tail.offset ∨
          ∃ error, session.files.fileNumber tail.path = .error error))) ∧
    (∀ command, isUnopened (session.step command).1 = true →
      (session.step command).2 = session ∧
      ∀ later, session.run (command :: later) =
        ((session.step command).1 :: (session.run later).1, (session.run later).2)) ∧
    (∀ commands, session.run (session.opening commands) =
      ((session.run commands).1.filter (!isUnopened ·), (session.run commands).2)) ∧
    ∀ path offset limit,
      let asked := session.step (.readPage path offset limit)
      ((∃ error, asked.1 = .error error) ↔
        offset < 0 ∨ FileReader.offsetLimit ≤ offset ∨
          ∃ error, session.files.fileNumber path = .error error) ∧
      ((∃ error, asked.1 = .error error) →
        asked.2 = { session with
          reader := { session.reader with calls := session.reader.calls + 1 } }) := by
  refine ⟨?_, ?_, session.run_opening, ?_⟩
  · intro tail command has polls
    exact (isUnopened_step_iff has polls).trans Tail.exists_openReader_eq_error_iff
  · intro command unopened
    have same := step_of_isUnopened unopened
    refine ⟨same, ?_⟩
    intro later
    rw [run_cons, same]
  · intro path offset limit
    obtain ⟨fails, counts⟩ := session.step_readPage path offset limit
    exact ⟨fails.trans FileReader.exists_openAt_eq_error_iff, counts⟩

/-- Two polls before the file is there make no difference to the poll that finds it. -/
theorem failed_opens_leave_no_trace_before_write :
    let packet : Bytes := Frame.encode ⟨2, List.replicate 28 7, by decide⟩
    let session : Session := { tail := some (Tail.new "log" 0 true) }
    let commands : List Command :=
      [.pollTail none, .pollTailOnce (some 1), .write "log" packet, .pollTail none]
    isUnopened (session.step (.pollTail none)).1 = true ∧
      (session.step (.pollTail none)).2 = session ∧
      session.run [.write "log" packet, .pollTail none] =
        ((session.run commands).1.filter (!isUnopened ·), (session.run commands).2) ∧
      (session.step (.readPage "log" (-1) 1)).2.reader = { calls := 1 } := by
  intro packet session commands
  obtain ⟨fails, stays, runs, reads⟩ := failed_opens_leave_no_trace session
  have missing : session.files.fileNumber (Tail.new "log" 0 true).path =
      .error (.refused .notFound "log") := by cbv
  -- The file is missing, which is one of the reasons not to open.
  have unopened : isUnopened (session.step (.pollTail none)).1 = true :=
    (fails _ _ rfl ⟨none, .inl rfl⟩).mpr ⟨rfl, .inr (.inr ⟨_, missing⟩)⟩
  -- Of the three polls only the last one is left, for the file is there then.
  have without : session.opening commands = [.write "log" packet, .pollTail none] := by cbv
  have again := runs commands
  rw [without] at again
  obtain ⟨refused, counts⟩ := reads "log" (-1) 1
  refine ⟨unopened, (stays _ unopened).1, again, ?_⟩
  rw [counts (refused.mpr (.inl (by decide)))]

end Session

end Unified2
