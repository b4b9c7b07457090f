import Mathlib.Data.List.Basic
import Unified2.Proofs.Number.Decimal
import Unified2.Settings

/-! Settings that were read hold positive numbers, and let every request through in part. -/

namespace Unified2

namespace Settings

variable {environment : Environment} {settings : Settings}

/-- The numbers of the settings are all positive. -/
structure Positive (settings : Settings) : Prop where
  pollInterval : settings.pollInterval.isNotPositive = false
  queueSize : 0 < settings.queueSize
  readLimit : 0 < settings.readLimit

/-- What the variables of an environment hold, each read on its own. -/
structure Holds (environment : Environment) (settings : Settings) : Prop where
  capabilities : readCapabilities environment = .ok settings.capabilities
  logLevel : (environment.lookup "U2_LOG_LEVEL").getD "info" = settings.logLevel
  pollInterval : readDecimal environment "U2_POLL_INTERVAL" "1.0" = .ok settings.pollInterval
  queueSize : readInteger environment "U2_QUEUE_SIZE" "10000" = .ok settings.queueSize
  readLimit : readInteger environment "U2_READ_LIMIT" "500" = .ok settings.readLimit

/-- What comes out of two steps in a row comes out of the second one. -/
private theorem exists_of_bind {α β : Type} {first : Except SettingsError α}
    {second : α → Except SettingsError β} {result : β} (found : first >>= second = .ok result) :
    ∃ value, first = .ok value ∧ second value = .ok result := by
  cases first with
  | error error => cases found
  | ok value => exact ⟨value, rfl, found⟩

/-- Settings are read if each variable can be read and all numbers are positive. -/
theorem read_eq_ok_iff :
    read environment = .ok settings ↔ Holds environment settings ∧ settings.Positive := by
  constructor
  · intro accepted
    -- Each variable is read before any number is judged.
    obtain ⟨capabilities, asked, accepted⟩ := exists_of_bind accepted
    obtain ⟨pollInterval, interval, accepted⟩ := exists_of_bind accepted
    obtain ⟨queueSize, size, accepted⟩ := exists_of_bind accepted
    obtain ⟨readLimit, limit, accepted⟩ := exists_of_bind accepted
    by_cases noInterval : pollInterval.isNotPositive = true
    · rw [if_pos noInterval] at accepted
      cases accepted
    by_cases noQueue : queueSize ≤ 0
    · rw [if_neg noInterval, if_pos noQueue] at accepted
      cases accepted
    by_cases noLimit : readLimit ≤ 0
    · rw [if_neg noInterval, if_neg noQueue, if_pos noLimit] at accepted
      cases accepted
    rw [if_neg noInterval, if_neg noQueue, if_neg noLimit] at accepted
    cases accepted
    -- A positive integer is as positive as a natural number.
    have queue : (queueSize.toNat : Int) = queueSize := by omega
    have room : (readLimit.toNat : Int) = readLimit := by omega
    refine ⟨⟨asked, rfl, interval, ?_, ?_⟩, by simpa using noInterval, ?_, ?_⟩
    · rw [size, queue]
    · rw [limit, room]
    · show 0 < queueSize.toNat
      omega
    · show 0 < readLimit.toNat
      omega
  · rintro ⟨holds, positive⟩
    have someQueue : settings.queueSize ≠ 0 := Nat.pos_iff_ne_zero.mp positive.queueSize
    have someLimit : settings.readLimit ≠ 0 := Nat.pos_iff_ne_zero.mp positive.readLimit
    simp [read, holds.capabilities, holds.pollInterval, holds.queueSize, holds.readLimit, plain,
      holds.logLevel, positive.pollInterval, someQueue, someLimit, bind, Except.bind, pure,
      Except.pure]

/-- Settings are read only if their numbers are positive. -/
theorem positive_of_read (accepted : read environment = .ok settings) : settings.Positive :=
  (read_eq_ok_iff.mp accepted).2

/-- A decimal is read if the variable's text writes it. -/
theorem readDecimal_eq_ok_iff {variableName fallback : String} {number : Binary64} :
    readDecimal environment variableName fallback = .ok number ↔
      Decimal.parse ((environment.lookup variableName).getD fallback) = .ok number := by
  rw [readDecimal]
  cases Decimal.parse ((environment.lookup variableName).getD fallback) <;> simp [Except.mapError]

/-- Every request is answered with a record at least. -/
theorem Positive.clampLimit_pos (positive : settings.Positive) (requested : Option Int) :
    0 < settings.clampLimit requested := by
  -- A request below one counts as none, and the smaller of two positive numbers is positive.
  have room := positive.readLimit
  cases requested with
  | none => exact room
  | some requested =>
    simp only [clampLimit]
    split <;> omega

/-- No request is answered with more records than the limit. -/
theorem clampLimit_le (settings : Settings) (requested : Option Int) :
    settings.clampLimit requested ≤ settings.readLimit := by
  -- A request below one counts as none.
  cases requested with
  | none => exact Nat.le_refl _
  | some requested =>
    simp only [clampLimit]
    split
    · exact Nat.le_refl _
    · exact Nat.min_le_right _ _

/-- A request within the limit is answered as it stands. -/
theorem clampLimit_of_le {requested : Int} (some : 1 ≤ requested)
    (within : requested ≤ settings.readLimit) : settings.clampLimit requested = requested := by
  rw [clampLimit, if_neg (by omega), Nat.min_eq_left (by omega)]
  omega

/-- The strings of a list are found if it holds nothing else. -/
theorem strings?_eq_some_iff {items : List JsonValue} {texts : List CodeText} :
    strings? items = some texts ↔ items = texts.map .string := by
  -- The items are looked at one by one, as the texts are.
  induction items generalizing texts with
  | nil => simp [strings?, eq_comm]
  | cons item rest ih =>
    cases item with
    | string text =>
      cases texts with
      | nil => simp [strings?]
      | cons first others =>
        constructor
        · intro found
          obtain ⟨_, strings, same⟩ := Option.map_eq_some_iff.mp found
          cases same
          rw [ih.mp strings, List.map_cons]
        · intro same
          cases same
          rw [strings?, ih.mpr rfl]
          rfl
    | _ => cases texts <;> simp [strings?]

/-- The capabilities that an environment asks for: the strings of its list, or the usual ones. -/
inductive AsksFor (environment : Environment) : List CodeText → Prop
  | unset (nothing : environment.lookup "U2_CAPABILITIES" = none) :
    AsksFor environment defaultCapabilities
  | empty (nothing : environment.lookup "U2_CAPABILITIES" = some "") :
    AsksFor environment defaultCapabilities
  | list {text : String} {paths : List CodeText}
    (set : environment.lookup "U2_CAPABILITIES" = some text) (something : text ≠ "")
    (parsed : Json.parse text = .ok (.array (paths.map .string))) : AsksFor environment paths

/-- The capabilities are read as what the environment asks for. -/
theorem readCapabilities_eq_ok_iff {paths : List CodeText} :
    readCapabilities environment = .ok paths ↔ AsksFor environment paths := by
  constructor
  · intro found
    -- An empty text asks for nothing, and every other one is a document.
    unfold readCapabilities at found
    split at found
    · next unset => cases found; exact .unset unset
    · next empty => cases found; exact .empty empty
    · next text something set =>
      split at found
      · cases found
      · next items parsed =>
        split at found
        · next strings =>
          cases found
          exact .list set something (strings?_eq_some_iff.mp strings ▸ parsed)
        · cases found
      · cases found
  · rintro (unset | empty | ⟨set, something, parsed⟩)
    · simp [readCapabilities, unset]
    · simp [readCapabilities, empty]
    · simp [readCapabilities, set, parsed, strings?_eq_some_iff.mpr rfl]

/-- Settings that were read are usable, but for an interval that is no number: that is read from
the word for it, and is not found out. -/
theorem usable_of_read (accepted : read environment = .ok settings) :
    AsksFor environment settings.capabilities ∧
    (settings.pollInterval = .nan ↔
      Decimal.SpellsNan ((environment.lookup "U2_POLL_INTERVAL").getD "1.0")) ∧
    (settings.pollInterval ≠ .nan → settings.pollInterval.IsPositive) ∧
    1 ≤ settings.queueSize ∧
    1 ≤ settings.readLimit ∧
    ∀ requested : Option Int,
      1 ≤ settings.clampLimit requested ∧
      settings.clampLimit requested ≤ settings.readLimit ∧
      ∀ limit : Int, requested = some limit → 1 ≤ limit → limit ≤ settings.readLimit →
        settings.clampLimit requested = limit := by
  -- Nothing is judged but what the variables hold.
  obtain ⟨holds, positive⟩ := read_eq_ok_iff.mp accepted
  refine ⟨readCapabilities_eq_ok_iff.mp holds.capabilities, ?_, ?_, positive.queueSize,
    positive.readLimit, fun requested => ⟨positive.clampLimit_pos requested,
      clampLimit_le settings requested, ?_⟩⟩
  · rw [← Decimal.parse_eq_nan_iff, readDecimal_eq_ok_iff.mp holds.pollInterval,
      Except.ok.injEq]
  · intro number
    exact (Binary64.isNotPositive_eq_false_iff.mp positive.pollInterval).resolve_right number
  · rintro limit rfl some within
    exact clampLimit_of_le some within

/-- An interval that underflows to the least number above zero, a grouped size and a limit in other
digits are usable. -/
theorem usable_of_read_underflowing :
    let environment : Environment :=
      [("U2_POLL_INTERVAL", " 4e-324 "), ("U2_QUEUE_SIZE", "1_000"), ("U2_READ_LIMIT", "٣"),
        ("U2_CAPABILITIES", "[\"a\"]")]
    let settings : Settings := ⟨[.ofString "a"], "info", .finite false 1, 1000, 3⟩
    read environment = .ok settings ∧ AsksFor environment settings.capabilities ∧
      settings.pollInterval.IsPositive ∧ settings.clampLimit (some 2) = 2 := by
  intro environment settings
  have accepted : read environment = .ok settings := by decide +kernel
  obtain ⟨asked, -, positive, -, -, clamped⟩ := usable_of_read accepted
  exact ⟨accepted, asked, positive nofun,
    Int.ofNat_inj.mp ((clamped (some 2)).2.2 2 rfl (by decide) (by decide))⟩

/-- An interval that is no number is accepted, and is not above zero. -/
theorem read_accepts_nan :
    read [("U2_POLL_INTERVAL", "nan")] = .ok { plain with pollInterval := .nan } ∧
      ¬ Binary64.nan.IsPositive :=
  ⟨by decide +kernel, Binary64.not_isPositive_nan⟩

end Settings

end Unified2
