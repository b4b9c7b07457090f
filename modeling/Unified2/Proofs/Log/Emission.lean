import Mathlib.Data.List.Forall2
import Unified2.Proofs.Log.Level
import Unified2.Proofs.Log.Setup

/-! However often the log was set up, it writes each record of the root and its parts that is
severe enough for the last setup, and writes it once. -/

namespace Unified2

namespace LogSetup

variable {setup : LogSetup}

/-- The states of a log that is set up and told records, in any order. -/
inductive Reached : LogSetup → Prop
  | fresh : Reached {}
  | configure {setup after : LogSetup} {level : String} :
      Reached setup → setup.configure level = .ok after → Reached after
  | record {setup : LogSetup} (record : LogRecord) :
      Reached setup → Reached (setup.after (.record record))

/-- A level text never attaches a second writer, and leaves the outer default alone. -/
theorem configure_keeps {after : LogSetup} {level : String}
    (accepted : setup.configure level = .ok after) :
    after.writers = max setup.writers 1 ∧ after.outerThreshold = setup.outerThreshold := by
  cases asks : LogLevel.requested level with
  | error error => simp [configure_eq_error asks] at accepted
  | ok severity =>
    -- A writer is attached where there is none, and nothing else is touched but the threshold.
    rw [configure_eq_ok asks, Except.ok.injEq] at accepted
    subst accepted
    exact ⟨rfl, rfl⟩

/-- However a state was reached, one writer at most was attached, and the outer default is still
`WARNING`. -/
theorem Reached.keeps (reached : Reached setup) :
    setup.writers ≤ 1 ∧ setup.outerThreshold = LogLevel.warning.severity := by
  induction reached with
  -- A fresh log has no writer yet.
  | fresh => decide
  | configure _ accepted before =>
    obtain ⟨writers, outer⟩ := configure_keeps accepted
    have atMostOne := before.1
    exact ⟨by omega, outer.trans before.2⟩
  -- A record changes neither.
  | record _ _ before => exact before

/-- Only the last of two setups counts. -/
theorem heed_heed (setup : LogSetup) (first last : Nat) :
    (setup.heed first).heed last = setup.heed last := by
  have writers : max (max setup.writers 1) 1 = max setup.writers 1 := by omega
  simp only [heed, writers]

/-- After names of levels, one or more of them, the log is set up for the last one. -/
theorem configureAll_eq_heed (setup : LogSetup) {levels : List String} (asked : levels ≠ [])
    (standard : ∀ level ∈ levels,
      ∃ severity, (Text.capitals level, severity) ∈ LogLevel.severities) :
    ∃ severity, (Text.capitals (levels.getLast asked), severity) ∈ LogLevel.severities ∧
      setup.configureAll levels = .ok (setup.heed severity) := by
  -- The induction is on the texts, from the first one on: each of them starts from the setup that
  -- those before it left, and `heed_heed` drops that setup again.
  induction levels generalizing setup with
  | nil => exact absurd rfl asked
  | cons first rest ih =>
    obtain ⟨severity, named⟩ := standard first List.mem_cons_self
    have step : setup.configureAll (first :: rest) = (setup.heed severity).configureAll rest := by
      rw [configureAll, configure_eq_ok (LogLevel.requested_of_mem named)]
      rfl
    cases rest with
    | nil => exact ⟨severity, named, step⟩
    | cons second more =>
      obtain ⟨last, lastNamed, reached⟩ := ih (setup.heed severity)
        (List.cons_ne_nil _ _) fun level isIn => standard level (List.mem_cons_of_mem _ isIn)
      rw [heed_heed] at reached
      exact ⟨last, lastNamed, step.trans reached⟩

/-- How often a record is written by a log that heeds a severity. -/
structure WrittenAs (timestamp : String) (least : Nat) (record : LogRecord)
    (written : List String) : Prop where
  /-- A record of the root or a part of it is written once, if it is severe enough. -/
  part : IsPart record.component →
    written = if least ≤ record.level.severity then [record.line timestamp] else []
  /-- A name that does not go on behind the root with a dot belongs to a stranger. -/
  stranger : record.component ≠ root → record.component.startsWith (root ++ ".") = false →
    written = []
  /-- No record is ever written twice. -/
  once : written = [] ∨ written = [record.line timestamp]

/-- With one writer, a record is written as it should be. -/
theorem writtenAs_write (one : setup.writers = 1) (consistent : setup.Consistent)
    (timestamp : String) (record : LogRecord) :
    WrittenAs timestamp setup.least record (setup.write timestamp (.record record)) where
  part part := write_of_isPart one consistent part timestamp
  stranger unlike noDot := write_of_stranger unlike noDot timestamp
  once := by
    simp only [write, one, List.replicate_one]
    by_cases admitted : setup.admits record = true
    · exact .inr (if_pos admitted)
    · exact .inl (if_neg admitted)

/-- With one writer, each of the records is written as it should be, one behind the other. -/
theorem lines_eq_flatten (one : setup.writers = 1) (consistent : setup.Consistent)
    (timestamp : String) (records : List LogRecord) :
    ∃ written, setup.lines timestamp records = written.flatten ∧
      List.Forall₂ (WrittenAs timestamp setup.least) records written := by
  induction records generalizing setup with
  -- No record, no line.
  | nil => exact ⟨[], rfl, .nil⟩
  | cons record records ih =>
    have first := writtenAs_write one consistent timestamp record
    -- A record leaves the writers and the severity that counts as they were.
    have stillOne : (setup.after (.record record)).writers = 1 := one
    obtain ⟨written, joined, rest⟩ := ih stillOne (consistent.after_record record)
    refine ⟨setup.write timestamp (.record record) :: written, ?_, .cons first rest⟩
    rw [List.flatten_cons, ← joined, lines_cons]

/-- Whatever a log was told before, after names of levels it heeds the last of them, and writes each
record of the root and its parts once if it is that severe. Of strangers it writes nothing, and no
record is written twice. -/
theorem each_record_is_written_once (reached : Reached setup) {levels : List String}
    (asked : levels ≠ [])
    (standard : ∀ level ∈ levels,
      ∃ severity, (Text.capitals level, severity) ∈ LogLevel.severities) :
    ∃ after severity, setup.configureAll levels = .ok after ∧
      (Text.capitals (levels.getLast asked), severity) ∈ LogLevel.severities ∧
      after.threshold = severity ∧ after.writers = 1 ∧
      ∀ timestamp records, ∃ written, after.lines timestamp records = written.flatten ∧
        List.Forall₂ (WrittenAs timestamp (if severity = 0 then 30 else severity))
          records written := by
  obtain ⟨severity, named, configured⟩ := configureAll_eq_heed setup asked standard
  obtain ⟨writers, outer⟩ := reached.keeps
  have one : (setup.heed severity).writers = 1 := by
    change max setup.writers 1 = 1
    omega
  -- `NOTSET` leaves the choice to the outer default, which is still `WARNING`.
  have least : (setup.heed severity).least = if severity = 0 then 30 else severity := by
    change (if severity = 0 then setup.outerThreshold else severity) = _
    rw [outer]
    rfl
  refine ⟨setup.heed severity, severity, configured, named, rfl, one, fun timestamp records => ?_⟩
  rw [← least]
  exact lines_eq_flatten one (consistent_heed setup severity) timestamp records

/-- A log that was set up for errors, told a record and set up twice more writes a record of the
root once. -/
theorem each_record_is_written_once_after_three_setups :
    let record : LogRecord := ⟨root, .info, "up", none⟩
    ∃ told after, configure {} "error" = .ok told ∧
      (told.after (.record record)).configureAll ["Debug", "info"] = .ok after ∧
      ∀ timestamp, after.lines timestamp [record] = [record.line timestamp] := by
  intro record
  have told : configure {} "error" = .ok (heed {} 40) := by decide +kernel
  have debug : (Text.capitals "Debug", 10) ∈ LogLevel.severities := by decide +kernel
  have info : (Text.capitals "info", 20) ∈ LogLevel.severities := by decide +kernel
  obtain ⟨after, severity, configured, named, -, -, written⟩ :=
    each_record_is_written_once (.record record (.configure .fresh told)) (List.cons_ne_nil _ _)
      (List.forall_mem_cons.mpr ⟨⟨10, debug⟩, List.forall_mem_singleton.mpr ⟨20, info⟩⟩)
  refine ⟨_, after, told, configured, fun timestamp => ?_⟩
  have heeded : severity = 20 := by
    have same := (LogLevel.requested_of_mem named).symm.trans (LogLevel.requested_of_mem info)
    exact Except.ok.inj same
  subst heeded
  obtain ⟨_, joined, each⟩ := written timestamp [record]
  cases each with
  | cons first rest =>
    cases rest
    rw [joined, first.part (.inl rfl)]
    rfl

/-- A name with two dots behind the root goes on behind it with a dot, and yet nothing is written of
it. -/
theorem two_dots_are_not_written :
    let record : LogRecord := ⟨"unified2_mcp..a", .error, "x", none⟩
    record.component.startsWith (root ++ ".") = true ∧
      ∃ after, configureAll {} ["info"] = .ok after ∧ after.least ≤ record.level.severity ∧
        ∀ timestamp, after.lines timestamp [record] = [] := by
  intro record
  have configured : configureAll {} ["info"] = .ok (heed {} 20) := by decide +kernel
  refine ⟨by decide +kernel, _, configured, by decide, fun timestamp => ?_⟩
  have outside : (heed {} 20).admits record = false := by decide +kernel
  simp [lines, trace, write, outside]

end LogSetup

end Unified2
