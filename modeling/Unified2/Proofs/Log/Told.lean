import Unified2.Proofs.Log.Setup

/-! What a log writes that a program shares with others: they may tell it things of their own and
set its outer default, which leaves the lines of the program as they are. -/

namespace Unified2

/-- Something that comes from outside the program: a record of a component that is neither the root
nor named after it, or another outer default. -/
inductive LogEvent.IsOuter : LogEvent → Prop
  | record {record : LogRecord} (unlike : record.component ≠ LogSetup.root)
    (noDot : record.component.startsWith (LogSetup.root ++ ".") = false) : IsOuter (.record record)
  | outer (severity : Nat) : IsOuter (.outer severity)

namespace LogSetup

variable {setup : LogSetup} {log : List LogEvent} {records : List LogRecord}

/-- What a program tells a log about the root and its parts, whatever the log is told from
outside. -/
inductive Tells : List LogEvent → List LogRecord → Prop
  | nil : Tells [] []
  | outer {event : LogEvent} {log : List LogEvent} {records : List LogRecord}
    (isOuter : event.IsOuter) (later : Tells log records) : Tells (event :: log) records
  | record {record : LogRecord} {log : List LogEvent} {records : List LogRecord}
    (part : IsPart record.component) (later : Tells log records) :
    Tells (.record record :: log) (record :: records)

/-- From outside, a program tells nothing. -/
theorem tells_of_isOuter (outside : ∀ event ∈ log, event.IsOuter) : Tells log [] := by
  induction log with
  | nil => exact .nil
  | cons event log ih =>
    exact .outer (outside event List.mem_cons_self)
      (ih fun other isIn => outside other (List.mem_cons_of_mem _ isIn))

/-- One record is told alone. -/
theorem tells_singleton {record : LogRecord} (part : IsPart record.component) :
    Tells [.record record] [record] :=
  .record part .nil

/-- What is told later stands behind what was told before. -/
theorem Tells.append (tells : Tells log records) {more : List LogEvent} {others : List LogRecord}
    (later : Tells more others) : Tells (log ++ more) (records ++ others) := by
  induction tells with
  | nil => exact later
  | outer isOuter _ ih => exact .outer isOuter ih
  | record part _ ih => exact .record part ih

/-- A log that was asked for a severity writes what the program tells it, if it is severe enough,
and no more. -/
theorem trace_of_tells (one : setup.writers = 1) (asked : setup.threshold ≠ 0)
    (consistent : setup.Consistent) (tells : Tells log records) (timestamp : String) :
    setup.trace timestamp log =
      (records.filter fun record => setup.threshold ≤ record.level.severity).map
        (LogRecord.line timestamp) := by
  -- What counts is the severity that was asked for, as long as no other is.
  induction tells generalizing setup with
  | nil => rfl
  | @outer event log records isOuter _ ih =>
    cases isOuter with
    | @record record unlike noDot =>
      have later := @ih (setup.after (.record record)) one asked
        (consistent.after_record record)
      rw [trace, write_of_stranger unlike noDot, later]
      rfl
    | outer severity =>
      -- Everything is decided anew, for the same severity as before.
      have later := @ih (setup.after (.outer severity)) one asked
        fun _ _ _ decided => absurd decided List.not_mem_nil
      rw [trace, later]
      rfl
  | @record record log records part _ ih =>
    have least : setup.least = setup.threshold := if_neg asked
    have later := @ih (setup.after (.record record)) one asked
      (consistent.after_record record)
    rw [trace, write_of_isPart one consistent part, least, later]
    -- What counts is the same for the records behind this one.
    have same : (setup.after (.record record)).threshold = setup.threshold := rfl
    by_cases severe : setup.threshold ≤ record.level.severity <;> simp [same, severe]

/-- What is told later is written by the setup that was left before. -/
theorem trace_append (setup : LogSetup) (timestamp : String) (log more : List LogEvent) :
    setup.trace timestamp (log ++ more) =
      setup.trace timestamp log ++ (log.foldl after setup).trace timestamp more := by
  induction log generalizing setup with
  | nil => rfl
  | cons event log ih => rw [List.cons_append, trace, trace, ih, List.append_assoc]; rfl

end LogSetup

end Unified2
