import Unified2.Capability.Errand
import Unified2.Proofs.Log.Told

/-! What comes of errands one after the other: the first that fails ends them, and what a program
tells the log meanwhile is what it tells in each of them. -/

namespace Unified2

variable {World α β : Type}

/-- What came before others came before all of them. -/
@[simp] theorem Report.behind_behind (report : Report World α) (first second : List LogEvent) :
    (report.behind second).behind first = report.behind (first ++ second) := by
  simp [behind]

namespace Errand

variable {errand : Errand World α} {next : α → Errand World β} {world after : World}
  {log : List LogEvent}

@[simp] theorem pure_apply (value : α) (world : World) :
    (pure value : Errand World α) world = ⟨.ok value, [], world⟩ := rfl

@[simp] theorem fail_apply (error : LoadError) (world : World) :
    (fail error : Errand World α) world = ⟨.error error, [], world⟩ := rfl

@[simp] theorem lift_apply (result : Except LoadError α) (world : World) :
    lift result world = ⟨result, [], world⟩ := rfl

@[simp] theorem tell_apply (log : List LogEvent) (world : World) :
    tell log world = ⟨.ok (), log, world⟩ := rfl

/-- Behind an errand that succeeds the next one is done, in the world that the first one left. -/
theorem bind_of_ok {value : α} (succeeds : errand world = ⟨.ok value, log, after⟩) :
    (errand >>= next) world = (next value after).behind log := by
  simp only [bind, succeeds]

/-- Behind an errand that fails nothing is done. -/
theorem bind_of_error {error : LoadError} (fails : errand world = ⟨.error error, log, after⟩) :
    (errand >>= next) world = ⟨.error error, log, after⟩ := by
  simp only [bind, fails]

@[simp] theorem lift_ok_bind (value : α) (next : α → Errand World β) :
    (lift (.ok value) >>= next) = next value := rfl

@[simp] theorem lift_error_bind (error : LoadError) (next : α → Errand World β) :
    (lift (.error error) >>= next) = fail error := rfl

@[simp] theorem tell_bind (log : List LogEvent) (next : Unit → Errand World β) :
    (tell log >>= next) world = (next () world).behind log :=
  bind_of_ok (tell_apply log world)

/-- Errands succeed together only if each of them does. -/
theorem exists_of_bind_ok {value : β} (succeeds : ((errand >>= next) world).result = .ok value) :
    ∃ first log after, errand world = ⟨.ok first, log, after⟩ ∧
      (next first after).result = .ok value := by
  rcases done : errand world with ⟨error | first, log, after⟩
  · -- A failure of the first would be that of both.
    rw [bind_of_error done] at succeeds
    cases succeeds
  · rw [bind_of_ok done] at succeeds
    exact ⟨first, log, after, rfl, succeeds⟩

/-- What was found out without any errand was found out, however an error would have been called. -/
theorem eq_ok_of_lift_mapError {ε : Type} {result : Except ε α} {rename : ε → LoadError} {value : α}
    (found : lift (result.mapError rename) world = ⟨.ok value, log, after⟩) :
    result = .ok value := by
  cases result with
  | error error => cases found
  | ok it => exact congrArg Except.ok (Except.ok.inj (congrArg Report.result found))

/-- An errand succeeds, with a value and a world of which something holds, and meanwhile the program
tells the log these records. -/
def Gives (errand : Errand World α) (world : World) (told : List LogRecord)
    (good : α → World → Prop) : Prop :=
  ∃ value log after, errand world = ⟨.ok value, log, after⟩ ∧ LogSetup.Tells log told ∧
    good value after

/-- An errand fails. Before that the program tells the log these records; what failed may have told
it things of its own in the end. -/
def Fails (errand : Errand World α) (world : World) (told : List LogRecord) (error : LoadError)
    (own : List LogEvent) : Prop :=
  ∃ log after, errand world = ⟨.error error, log ++ own, after⟩ ∧ LogSetup.Tells log told

variable {told others : List LogRecord} {good : α → World → Prop} {fine : β → World → Prop}
  {error : LoadError} {own : List LogEvent}

/-- Something that was known before is given at once. -/
theorem gives_pure {value : α} (holds : good value world) :
    Gives (pure value) world [] good :=
  ⟨value, [], world, rfl, .nil, holds⟩

/-- What holds of a value and a world may be less than what is known. -/
theorem Gives.mono (gives : Gives errand world told good) {weaker : α → World → Prop}
    (weaken : ∀ value after, good value after → weaker value after) :
    Gives errand world told weaker := by
  obtain ⟨value, log, after, done, tells, holds⟩ := gives
  exact ⟨value, log, after, done, tells, weaken value after holds⟩

/-- What is known of an errand holds in the world that it leaves. -/
theorem Gives.and_world_eq (gives : Gives errand world told good) :
    Gives errand world told fun value after => good value after ∧ after = (errand world).world := by
  obtain ⟨value, log, after, done, tells, holds⟩ := gives
  exact ⟨value, log, after, done, tells, holds, by rw [done]⟩

/-- Two errands succeed together if the second one does, whatever the first one gives. -/
theorem Gives.bind (gives : Gives errand world told good)
    (later : ∀ value after, good value after → Gives (next value) after others fine) :
    Gives (errand >>= next) world (told ++ others) fine := by
  obtain ⟨value, log, after, done, tells, holds⟩ := gives
  -- The second is done in the world that the first one left, and told behind it.
  obtain ⟨last, more, final, doneNext, tellsNext, holdsLast⟩ := later value after holds
  refine ⟨last, log ++ more, final, ?_, tells.append tellsNext, holdsLast⟩
  rw [bind_of_ok done, doneNext]
  rfl

/-- Two errands fail together if the second one does, whatever the first one gives. -/
theorem Gives.bind_fails (gives : Gives errand world told good)
    (later : ∀ value after, good value after → Fails (next value) after others error own) :
    Fails (errand >>= next) world (told ++ others) error own := by
  obtain ⟨value, log, after, done, tells, holds⟩ := gives
  -- What the second told of its own stays at the end.
  obtain ⟨more, final, failsNext, tellsNext⟩ := later value after holds
  refine ⟨log ++ more, final, ?_, tells.append tellsNext⟩
  rw [bind_of_ok done, failsNext, List.append_assoc]
  rfl

/-- Behind an errand that succeeds, one follows in which the program tells nothing. -/
theorem Gives.bind_quiet (gives : Gives errand world told good)
    (later : ∀ value after, good value after → Gives (next value) after [] fine) :
    Gives (errand >>= next) world told fine := by
  simpa only [List.append_nil] using gives.bind later

/-- Behind an errand that succeeds, one fails in which the program tells nothing. -/
theorem Gives.bind_fails_quiet (gives : Gives errand world told good)
    (later : ∀ value after, good value after → Fails (next value) after [] error own) :
    Fails (errand >>= next) world told error own := by
  simpa only [List.append_nil] using gives.bind_fails later

/-- Two errands fail together if the first one does. -/
theorem Fails.bind (fails : Fails errand world told error own) :
    Fails (errand >>= next) world told error own := by
  obtain ⟨log, after, done, tells⟩ := fails
  exact ⟨log, after, bind_of_error done, tells⟩

end Errand

end Unified2
