import Unified2.Log.Record
import Unified2.Proofs.Json.Line

/-! A line of the log is one line of plain characters, and reads back as all that it tells. -/

namespace Unified2

namespace LogLevel

/-- A level that has a name is called by it, and any other by its number. -/
theorem name_cases (level : LogLevel) :
    (level.severity, level.name) ∈ names ∨ level.name = "Level " ++ toString level.severity := by
  unfold name
  cases found : names.lookup level.severity with
  | none => exact .inr rfl
  | some name =>
    obtain ⟨before, behind, split, -⟩ := List.lookup_eq_some_iff.mp found
    exact .inl (by simp [split])

/-- Levels of one name are the same. -/
theorem name_injective {first second : LogLevel} (same : first.name = second.name) :
    first = second := by
  obtain ⟨first⟩ := first
  obtain ⟨second⟩ := second
  rw [mk.injEq]
  -- No two numbers share a name, and no name is that of a level called by its number.
  have distinct : ∀ left ∈ names, ∀ right ∈ names, left.2 = right.2 → left.1 = right.1 := by
    decide
  have apart : ∀ named ∈ names, ∀ number : Nat, named.2 ≠ "Level " ++ toString number := by
    intro named isIn number spelled
    have differs : ∀ named ∈ names, ¬ "Level ".toList <+: named.2.toList := by decide
    exact differs named isIn (by rw [spelled, String.toList_append]; exact List.prefix_append ..)
  rcases name_cases ⟨first⟩ with left | left <;> rcases name_cases ⟨second⟩ with right | right
  · exact distinct _ left _ right same
  · exact absurd (same.trans right) (apart _ left second)
  · exact absurd (same.symm.trans left) (apart _ right first)
  · -- The digits of a number read back as that number.
    rw [left, right, String.append_right_inj] at same
    have digits : Nat.toDigits 10 first = Nat.toDigits 10 second := String.ofList_inj.mp same
    have reads : Numeral.read? 10 (Nat.toDigits 10 first) = some first :=
      Numeral.read?_toDigits (by decide) (by decide) first
    rw [digits, Numeral.read?_toDigits (by decide) (by decide), Option.some.injEq] at reads
    exact reads.symm

end LogLevel

namespace CodeText

/-- Texts of the same code points are the same. -/
theorem ofString_injective {first second : String} (same : ofString first = ofString second) :
    first = second :=
  String.toList_inj.mp ((List.map_inj_right fun _ _ => CodePoint.char.inj).mp same)

end CodeText

namespace LogEntry

/-- An entry is what its members tell. -/
theorem members_injective {first second : LogEntry} (same : first.members = second.members) :
    first = second := by
  obtain ⟨_, _, _, _, _ | _⟩ := first <;> obtain ⟨_, _, _, _, _ | _⟩ := second <;>
    simp_all [members]

/-- The line of an entry reads back as its members. -/
theorem parse_line (entry : LogEntry) :
    Json.parse entry.line = .ok (.object (entry.members.map Json.read)) :=
  Json.parse_line _ _

/-- Entries with the same line are the same. -/
theorem line_injective {first second : LogEntry} (same : first.line = second.line) :
    first = second := by
  have reads := congrArg Json.parse same
  rw [parse_line, parse_line, Except.ok.injEq, JsonValue.object.injEq] at reads
  -- A reader gives different members for different texts.
  refine members_injective ((List.map_inj_right ?_).mp reads)
  rintro ⟨_, _⟩ ⟨_, _⟩ alike
  simp only [Json.read, Prod.mk.injEq, JsonValue.string.injEq] at alike
  rw [CodeText.ofString_injective alike.1, CodeText.ofString_injective alike.2]

/-- Whatever the texts of an entry are, its line is of visible ASCII characters and blanks, and one
document: an object of the time, the level, the component and the message, and of the failure if
there is one, with exactly these texts. No other entry has the same line, and no two records have
one at the same time. -/
theorem line_reads_back (entry : LogEntry) :
    (∀ char ∈ entry.line.toList, 0x20 ≤ char.toNat ∧ char.toNat < 0x7f) ∧
    Json.parse entry.line = .ok (.object <|
      ([("timestamp", entry.timestamp), ("level", entry.level), ("component", entry.component),
        ("message", entry.message)] ++ entry.failure.toList.map ("exception", ·)).map
        fun (name, text) => (.ofString name, .string (.ofString text))) ∧
    (∀ other : LogEntry, other.line = entry.line → other = entry) ∧
    ∀ (timestamp : String) (first second : LogRecord),
      first.line timestamp = second.line timestamp → first = second := by
  refine ⟨fun _ => Json.isPlain_of_mem_line, ?_, fun _ => line_injective, ?_⟩
  · rw [parse_line]
    -- The members are those listed, with or without a failure.
    obtain ⟨_, _, _, _, _ | _⟩ := entry <;> rfl
  · intro timestamp first second same
    obtain ⟨component, level, message, failure⟩ := first
    obtain ⟨_, _, _, _⟩ := second
    have alike := line_injective same
    simp only [LogRecord.entry, mk.injEq] at alike
    obtain ⟨-, named, rfl, rfl, rfl⟩ := alike
    rw [LogLevel.name_injective named]

end LogEntry

end Unified2
