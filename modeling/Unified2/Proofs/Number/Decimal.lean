import Mathlib
import Unified2.Number.Text

/-! Which numbers are above zero, and which texts are read as no number at all. -/

namespace Unified2

namespace Binary64

/-- A number above zero. -/
inductive IsPositive : Binary64 → Prop
  | infinite : IsPositive (infinite false)
  | finite {units : Nat} (some : 0 < units) : IsPositive (finite false units)

/-- What is found not to be at most zero is above zero, unless it is no number. -/
theorem isNotPositive_eq_false_iff {number : Binary64} :
    number.isNotPositive = false ↔ number.IsPositive ∨ number = nan := by
  constructor
  · intro passed
    -- Only the sign and the units are looked at, and what is no number has neither.
    rcases number with _ | (_ | _) | ⟨_ | _, units⟩
    · exact .inr rfl
    · exact .inl .infinite
    · cases passed
    · have some : units ≠ 0 := by simpa [isNotPositive] using passed
      exact .inl (.finite (Nat.pos_of_ne_zero some))
    · cases passed
  · rintro ((_ | some) | rfl)
    · rfl
    · simp [isNotPositive, Nat.pos_iff_ne_zero.mp some]
    · rfl

/-- What is no number is not above zero. -/
theorem not_isPositive_nan : ¬ nan.IsPositive := nofun

/-- Rounding a quotient gives a number. -/
theorem ofUnits_ne_nan (negative : Bool) (numerator denominator : Nat) :
    ofUnits negative numerator denominator ≠ nan := by
  -- What is too large to be finite is infinite.
  simp only [ofUnits]
  split <;> nofun

/-- Rounding a decimal gives a number. -/
theorem ofDecimal_ne_nan (negative : Bool) (digits : Nat) (exponent : Int) :
    ofDecimal negative digits exponent ≠ nan := by
  -- Zero, far too large, far too small, and two ways to round a quotient.
  unfold ofDecimal
  split
  · nofun
  split
  · nofun
  split
  · nofun
  split
  · exact ofUnits_ne_nan _ _ _
  · exact ofUnits_ne_nan _ _ _

end Binary64

namespace NumberText

/-- A text without underscores has none in a wrong place. -/
theorem underscoresBetween_of_notMem {previous : Char} {chars : List Char}
    (before : previous ≠ '_') (none : '_' ∉ chars) : underscoresBetween previous chars = true := by
  -- Nothing stands before an underscore, so only digits could be missed, and none is asked for.
  induction chars generalizing previous with
  | nil => simpa [underscoresBetween] using before
  | cons char rest ih =>
    have here : char ≠ '_' := fun same => none (same ▸ List.mem_cons_self)
    have behind := ih here fun there => none (List.mem_cons_of_mem char there)
    simp [underscoresBetween, here, before, behind]

/-- A text without digits has no underscore in a right place. -/
theorem notMem_of_underscoresBetween {previous : Char} {chars : List Char}
    (before : previous.isDigit = false) (digitless : ∀ char ∈ chars, char.isDigit = false)
    (placed : underscoresBetween previous chars = true) : '_' ∉ chars := by
  induction chars generalizing previous with
  | nil => nofun
  | cons char rest ih =>
    rw [underscoresBetween, Bool.and_eq_true] at placed
    have here : char ≠ '_' := by
      rintro rfl
      -- An underscore follows a digit.
      simp [before] at placed
    have behind := ih (digitless char List.mem_cons_self)
      (fun other there => digitless other (List.mem_cons_of_mem char there)) placed.2
    simp [here.symm, behind]

end NumberText

namespace Decimal

open NumberText

/-- The word that stands for no number, in letters of either case. -/
def IsNanWord (word : List Char) : Prop := word.map Char.toLower = ['n', 'a', 'n']

instance (word : List Char) : Decidable (IsNanWord word) :=
  inferInstanceAs (Decidable (word.map Char.toLower = ['n', 'a', 'n']))

/-- The text writes no number: the word for that, with at most a sign in front and blanks around. -/
def SpellsNan (text : String) : Prop := IsNanWord (takeSign (trim (plain text))).2

instance (text : String) : Decidable (SpellsNan text) :=
  inferInstanceAs (Decidable (IsNanWord (takeSign (trim (plain text))).2))

/-- The word consists of letters. -/
theorem IsNanWord.isAlpha {word : List Char} (isWord : IsNanWord word) {char : Char}
    (isIn : char ∈ word) : char.isAlpha = true := by
  have lower : char.toLower ∈ ['n', 'a', 'n'] := isWord ▸ List.mem_map_of_mem isIn
  -- Whether a character is a letter does not depend on its case.
  rw [← Char.isAlpha_toLower_eq_isAlpha]
  simp only [List.mem_cons, List.not_mem_nil, or_false] at lower
  rcases lower with same | same | same <;> rw [same] <;> rfl

/-- A letter is no digit. -/
theorem isDigit_of_isAlpha {char : Char} (letter : char.isAlpha = true) :
    char.isDigit = false := by
  simp only [Char.isAlpha, Char.isUpper, Char.isLower, Bool.or_eq_true, Bool.and_eq_true,
    decide_eq_true_eq, ge_iff_le, UInt32.le_iff_toNat_le] at letter
  simp only [Char.isDigit, Bool.and_eq_false_iff, decide_eq_false_iff_not, ge_iff_le,
    UInt32.le_iff_toNat_le]
  -- The digits stand before the letters.
  have nine : ('9' : Char).val.toNat = 57 := rfl
  have upper : ('A' : Char).val.toNat = 65 := rfl
  have lower : ('a' : Char).val.toNat = 97 := rfl
  omega

/-- Only the sign is missing from what follows it. -/
theorem mem_of_takeSign {chars : List Char} {char : Char} (isIn : char ∈ chars) :
    char = '-' ∨ char = '+' ∨ char ∈ (takeSign chars).2 := by
  -- There are two signs, and without one nothing is missing.
  unfold takeSign
  split
  · obtain same | behind := List.mem_cons.mp isIn
    · exact .inl same
    · exact .inr (.inr behind)
  · exact .inr (List.mem_cons.mp isIn)
  · exact .inr (.inr isIn)

/-- Nothing around the word is a digit or an underscore. -/
theorem plain_of_isNanWord {chars : List Char} (isWord : IsNanWord (takeSign chars).2)
    {char : Char} (isIn : char ∈ chars) : char.isDigit = false ∧ char ≠ '_' := by
  obtain rfl | rfl | inWord := mem_of_takeSign isIn
  · decide
  · decide
  · have letter := isWord.isAlpha inWord
    exact ⟨isDigit_of_isAlpha letter, fun same => by rw [same] at letter; cases letter⟩

/-- Only the word is a special text of no number. -/
theorem special?_eq_nan_iff {negative : Bool} {chars : List Char} :
    special? negative chars = some .nan ↔ IsNanWord chars := by
  have isWord : String.ofList (chars.map Char.toLower) = "nan" ↔ IsNanWord chars := by
    show _ = String.ofList ['n', 'a', 'n'] ↔ _
    rw [String.ofList_inj, IsNanWord]
  rw [← isWord, special?]
  -- The words for what is infinite are other words.
  by_cases unbounded : String.ofList (chars.map Char.toLower) = "inf" ∨
      String.ofList (chars.map Char.toLower) = "infinity"
  · rw [if_pos unbounded]
    rcases unbounded with same | same <;> simp [same]
  · rw [if_neg unbounded]
    split <;> simp_all

/-- Characters are read as no number if they are the word behind its sign. -/
theorem ofChars?_eq_nan_iff {chars : List Char} :
    ofChars? chars = some .nan ↔ IsNanWord (takeSign chars).2 := by
  -- The sign makes no difference to what is no number.
  rcases signed : takeSign chars with ⟨negative, body⟩
  simp only [ofChars?, signed]
  constructor
  · intro found
    -- With a point or without one, what has digits is rounded to a number.
    split at found
    all_goals
      split at found
      · exact special?_eq_nan_iff.mp found
      · obtain ⟨exponent, -, rounded⟩ := Option.map_eq_some_iff.mp found
        exact absurd rounded (Binary64.ofDecimal_ne_nan _ _ _)
  · intro isWord
    obtain ⟨letter, rest, rfl⟩ : ∃ letter rest, body = letter :: rest := by
      cases body with
      | nil => cases isWord
      | cons letter rest => exact ⟨letter, rest, rfl⟩
    have first := isWord.isAlpha List.mem_cons_self
    have noDigits : (letter :: rest).takeWhile Char.isDigit = [] := by
      simp [isDigit_of_isAlpha first]
    have noPoint : letter ≠ '.' := fun same => by rw [same] at first; cases first
    simp [noDigits, noPoint, special?_eq_nan_iff.mpr isWord]

/-- A text is read as no number exactly if it spells that. -/
theorem parse_eq_nan_iff {text : String} : parse text = .ok .nan ↔ SpellsNan text := by
  -- Without underscores the text is read as it is.
  have whole (none : ∀ char ∈ trim (plain text), char ≠ '_') :
      (trim (plain text)).filter (· != '_') = trim (plain text) :=
    List.filter_eq_self.mpr fun char isIn => bne_iff_ne.mpr (none char isIn)
  have step : parse text = .ok .nan ↔ underscoresBetween ' ' (trim (plain text)) = true ∧
      ofChars? ((trim (plain text)).filter (· != '_')) = some .nan := by
    simp only [parse]
    split <;> simp_all
  rw [step, ofChars?_eq_nan_iff, SpellsNan]
  constructor
  · rintro ⟨placed, isWord⟩
    -- Without digits no underscore is in place, so there was none to leave out.
    have digitless : ∀ char ∈ trim (plain text), char.isDigit = false := by
      intro char isIn
      by_cases same : char = '_'
      · rw [same]; rfl
      · have kept := List.mem_filter (p := (· != '_')).mpr ⟨isIn, bne_iff_ne.mpr same⟩
        exact (plain_of_isNanWord isWord kept).1
    have none := notMem_of_underscoresBetween rfl digitless placed
    rwa [whole fun char isIn same => none (same ▸ isIn)] at isWord
  · intro isWord
    have none : ∀ char ∈ trim (plain text), char ≠ '_' :=
      fun char isIn => (plain_of_isNanWord isWord isIn).2
    rw [whole none]
    exact ⟨underscoresBetween_of_notMem (by decide) fun isIn => none '_' isIn rfl, isWord⟩

end Decimal
end Unified2
