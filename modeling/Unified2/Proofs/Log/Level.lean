import Unified2.Log.Record
import Unified2.Proofs.Text.Capitals

/-! Which level texts the log accepts, and what they set it up for: all of them, but for those that
spell one of two names that stand for something else. -/

namespace Unified2

namespace LogLevel

variable {text : String}

/-- All names of levels are in capitals. -/
theorem isCapitalized_of_mem {name : String} {severity : Nat}
    (named : (name, severity) ∈ severities) : Text.IsCapitalized name := by
  have each : ∀ pair ∈ severities, Text.IsCapitalized pair.1 := by
    simp [severities, Text.IsCapitalized]
  exact each _ named

/-- The two names that are refused are in capitals as well. -/
theorem isCapitalized_refused :
    Text.IsCapitalized "BASIC_FORMAT" ∧ Text.IsCapitalized "_STYLES" := by
  constructor <;> simp [Text.IsCapitalized]

/-- A text whose capitals are the name of a level asks for its number. -/
theorem requested_of_mem {severity : Nat}
    (named : (Text.capitals text, severity) ∈ severities) : requested text = .ok severity := by
  -- The names are different, so each is found with its own number.
  have each : ∀ pair ∈ severities, severities.lookup pair.1 = some pair.2 := by decide
  have found : severities.lookup (Text.capitals text) = some severity := each _ named
  simp only [requested, found]

/-- A text that spells the name of a level asks for its number. -/
theorem requested_of_spells {name : String} {severity : Nat}
    (named : (name, severity) ∈ severities) (spells : Text.Spells text name) :
    requested text = .ok severity := by
  apply requested_of_mem
  rwa [(Text.capitals_eq_iff (isCapitalized_of_mem named)).mpr spells]

/-- A text that spells the name of the line format is refused. -/
theorem requested_lineFormat (spells : Text.Spells text "BASIC_FORMAT") :
    requested text = .error .lineFormat := by
  have same := (Text.capitals_eq_iff isCapitalized_refused.1).mpr spells
  simp only [requested, same]
  rfl

/-- A text that spells the name of the styles is refused. -/
theorem requested_styles (spells : Text.Spells text "_STYLES") :
    requested text = .error .styles := by
  have same := (Text.capitals_eq_iff isCapitalized_refused.2).mpr spells
  simp only [requested, same]
  rfl

/-- A text that spells none of these names asks for `INFO`. -/
theorem requested_of_not_spells
    (unnamed : ∀ name severity, (name, severity) ∈ severities → ¬ Text.Spells text name)
    (noFormat : ¬ Text.Spells text "BASIC_FORMAT") (noStyles : ¬ Text.Spells text "_STYLES") :
    requested text = .ok info.severity := by
  -- Found in the table, the capitals would be a name that the text spells.
  have absent : severities.lookup (Text.capitals text) = none := by
    cases found : severities.lookup (Text.capitals text) with
    | none => rfl
    | some severity =>
      obtain ⟨before, behind, split, -⟩ := List.lookup_eq_some_iff.mp found
      have named : (Text.capitals text, severity) ∈ severities := by simp [split]
      exact absurd ((Text.capitals_eq_iff (isCapitalized_of_mem named)).mp rfl)
        (unnamed _ _ named)
  rw [← Text.capitals_eq_iff isCapitalized_refused.1] at noFormat
  rw [← Text.capitals_eq_iff isCapitalized_refused.2] at noStyles
  simp only [requested, absent, if_neg noFormat, if_neg noStyles]

end LogLevel

namespace LogSetup

/-- The setup that a level text leads to is the one for what it asks for. -/
theorem configure_eq_ok {setup : LogSetup} {text : String} {severity : Nat}
    (asks : LogLevel.requested text = .ok severity) :
    setup.configure text = .ok (setup.heed severity) := by
  rw [configure, asks]
  rfl

/-- A level text that is refused leads to no setup. -/
theorem configure_eq_error {setup : LogSetup} {text : String} {error : LevelError}
    (refused : LogLevel.requested text = .error error) : setup.configure text = .error error := by
  rw [configure, refused]
  rfl

/-- Every level text sets the log up, unless it spells the name of the line format or of the styles,
which is refused. The log then heeds the number of the level whose name the text spells, or that of
`INFO` if it spells none, and has a writer. -/
theorem configure_refuses_two_names (setup : LogSetup) (text : String) :
    let levels : List (String × Nat) := [("CRITICAL", 50), ("FATAL", 50), ("ERROR", 40),
      ("WARNING", 30), ("WARN", 30), ("INFO", 20), ("DEBUG", 10), ("NOTSET", 0)]
    ((∃ after, setup.configure text = .ok after) ↔
      ¬ Text.Spells text "BASIC_FORMAT" ∧ ¬ Text.Spells text "_STYLES") ∧
    (Text.Spells text "BASIC_FORMAT" → setup.configure text = .error .lineFormat) ∧
    (Text.Spells text "_STYLES" → setup.configure text = .error .styles) ∧
    ∀ after, setup.configure text = .ok after →
      after.writers = max setup.writers 1 ∧
      (∀ name severity, (name, severity) ∈ levels → Text.Spells text name →
        after.threshold = severity) ∧
      ((∀ name severity, (name, severity) ∈ levels → ¬ Text.Spells text name) →
        after.threshold = 20) := by
  intro levels
  have noFormat : Text.Spells text "BASIC_FORMAT" → setup.configure text = .error .lineFormat :=
    fun spells => configure_eq_error (LogLevel.requested_lineFormat spells)
  have noStyles : Text.Spells text "_STYLES" → setup.configure text = .error .styles :=
    fun spells => configure_eq_error (LogLevel.requested_styles spells)
  refine ⟨⟨?_, ?_⟩, noFormat, noStyles, ?_⟩
  · rintro ⟨after, accepted⟩
    -- A text that is refused sets nothing up.
    exact ⟨fun spells => by simp [noFormat spells] at accepted,
      fun spells => by simp [noStyles spells] at accepted⟩
  · rintro ⟨unlikeFormat, unlikeStyles⟩
    -- A text that names a level is found in the table, and any other asks for `INFO`.
    by_cases named : ∃ name severity, (name, severity) ∈ levels ∧ Text.Spells text name
    · obtain ⟨name, severity, isIn, spells⟩ := named
      exact ⟨_, configure_eq_ok (LogLevel.requested_of_spells isIn spells)⟩
    · refine ⟨_, configure_eq_ok (LogLevel.requested_of_not_spells ?_ unlikeFormat unlikeStyles)⟩
      exact fun name severity isIn spells => named ⟨name, severity, isIn, spells⟩
  · intro after accepted
    -- The log was set up, so the text asks for some number.
    cases asks : LogLevel.requested text with
    | error error => simp [configure_eq_error asks] at accepted
    | ok asked =>
      rw [configure_eq_ok asks, Except.ok.injEq] at accepted
      subst accepted
      refine ⟨rfl, fun name severity isIn spells => ?_, fun unnamed => ?_⟩
      · -- The text asks for one number only, which is that of the name it spells.
        rw [LogLevel.requested_of_spells isIn spells, Except.ok.injEq] at asks
        exact asks.symm
      · -- The text is neither of the two names, for these are refused.
        have unlikeFormat : ¬ Text.Spells text "BASIC_FORMAT" := fun spells => by
          simp [LogLevel.requested_lineFormat spells] at asks
        have unlikeStyles : ¬ Text.Spells text "_STYLES" := fun spells => by
          simp [LogLevel.requested_styles spells] at asks
        rw [LogLevel.requested_of_not_spells unnamed unlikeFormat unlikeStyles,
          Except.ok.injEq] at asks
        exact asks.symm

/-- The name of the line format is the text of no level, and is refused all the same. -/
theorem basic_format_is_refused : ¬ ∃ after, configure {} "basic_format" = .ok after := by
  have refused : configure {} "basic_format" = .error .lineFormat := by decide +kernel
  rintro ⟨after, accepted⟩
  rw [refused] at accepted
  exact nomatch accepted

end LogSetup

end Unified2
