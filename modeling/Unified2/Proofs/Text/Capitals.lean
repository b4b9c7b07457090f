import Mathlib
import Unified2.Text.Capitals

/-! Which texts have capitals that spell a name: those with the letters of the name in either case,
some letters of other alphabets and some joined letters among them. -/

namespace Unified2.Text

/-- The letters that a character joins, in small letters; any other character stands alone. -/
def parts : Char → List Char
  | '\u00df' => ['s', 's']
  | '\ufb00' => ['f', 'f']
  | '\ufb01' => ['f', 'i']
  | '\ufb02' => ['f', 'l']
  | '\ufb03' => ['f', 'f', 'i']
  | '\ufb04' => ['f', 'f', 'l']
  | '\ufb05' | '\ufb06' => ['s', 't']
  | char => [char]

/-- The characters that stand for a capital letter: in either case, or without the dot of an i, or
as a long s. -/
def forms (letter : Char) : List Char :=
  [letter, letter.toLower] ++ (if letter = 'I' then ['\u0131'] else []) ++
    if letter = 'S' then ['\u017f'] else []

/-- Whether a text spells a name: with joined letters taken apart, its characters stand for the
letters of the name, one for each. -/
def Spells (text name : String) : Prop :=
  List.Forall₂ (fun char letter => char ∈ forms letter) (text.toList.flatMap parts) name.toList

instance (text name : String) : Decidable (Spells text name) :=
  inferInstanceAs (Decidable (List.Forall₂ _ _ _))

/-- A name of ASCII characters without small letters. -/
def IsCapitalized (name : String) : Prop :=
  ∀ letter ∈ name.toList, letter.toNat < 0x80 ∧ letter.isLower = false

/-- The capital letter of a character that stands alone. -/
def capitalLetter (char : Char) : Char :=
  if char = '\u0131' then 'I' else if char = '\u017f' then 'S' else char.toUpper

/-- The capitals of a character are those of the letters that it joins. -/
theorem capital_eq (char : Char) : capital char = (parts char).map capitalLetter := by
  unfold parts
  split
  case h_9 sharp ff fi fl ffi ffl longSt st =>
    -- A character that joins nothing is one of two letters, or has no other capital than in ASCII.
    by_cases dotless : char = '\u0131'
    · subst dotless
      rfl
    by_cases long : char = '\u017f'
    · subst long
      rfl
    have absent : foreignCapitals.lookup char = none := by
      rw [List.lookup_eq_none_iff]
      simpa [foreignCapitals, dotless, long] using ⟨sharp, ff, fi, fl, ffi, ffl, longSt, st⟩
    simp [capital, absent, capitalLetter, dotless, long]
  all_goals rfl

/-- In ASCII a capital letter is that of itself and of its small form. -/
theorem toUpper_eq_iff {char letter : Char} (capital : letter.isLower = false) :
    char.toUpper = letter ↔ char = letter ∨ char = letter.toLower := by
  have same : letter.toUpper = letter := Char.toUpper_eq_of_not_isLower (by simp [capital])
  constructor
  · intro upper
    by_cases lower : char.isLower = true
    · have small : char.toLower = char :=
        Char.toLower_eq_of_not_isUpper (Char.not_isUpper_of_isLower lower)
      exact .inr (by rw [← upper, Char.toLower_toUpper_eq_toLower, small])
    · exact .inl ((Char.toUpper_eq_of_not_isLower lower).symm.trans upper)
  · rintro (rfl | rfl)
    · exact same
    · rw [Char.toUpper_toLower_eq_toUpper, same]

/-- A capital letter is that of the characters that stand for it. -/
theorem capitalLetter_eq_iff {char letter : Char} (ascii : letter.toNat < 0x80)
    (capital : letter.isLower = false) : capitalLetter char = letter ↔ char ∈ forms letter := by
  -- The two letters of other alphabets are neither form of a letter.
  have apart : ∀ other : Char, 0x80 ≤ other.toNat → other.toUpper = other →
      ¬ (other = letter ∨ other = letter.toLower) := by
    intro other beyond unchanged either
    have reached := (toUpper_eq_iff capital).mpr either
    rw [unchanged] at reached
    rw [reached] at beyond
    omega
  have notDotless := apart '\u0131' (by decide) (by decide)
  have notLong := apart '\u017f' (by decide) (by decide)
  unfold capitalLetter forms
  by_cases dotless : char = '\u0131'
  · subst dotless
    by_cases isI : letter = 'I'
    · simp [isI]
    · simp [isI, Ne.symm isI, notDotless]
  by_cases long : char = '\u017f'
  · subst long
    by_cases isS : letter = 'S'
    · simp [isS]
    · simp [isS, Ne.symm isS, notLong]
  rw [if_neg dotless, if_neg long, toUpper_eq_iff capital]
  split <;> split <;> simp [dotless, long]

/-- The capitals of a text are a name exactly if the text spells it. -/
theorem capitals_eq_iff {text name : String} (capital : IsCapitalized name) :
    capitals text = name ↔ Spells text name := by
  have letters : text.toList.flatMap Text.capital =
      (text.toList.flatMap parts).map capitalLetter := by
    rw [List.map_flatMap]
    exact List.flatMap_congr fun char _ => capital_eq char
  rw [capitals, ← String.toList_inj, String.toList_ofList, letters, ← List.forall₂_eq_eq_eq,
    List.forall₂_map_left_iff, Spells, List.forall₂_iff_get, List.forall₂_iff_get]
  -- Letter by letter, the one that a character stands for is its capital letter.
  refine and_congr_right fun _ => forall_congr' fun index => forall_congr' fun _ =>
    forall_congr' fun within => ?_
  obtain ⟨ascii, notLower⟩ := capital _ (List.get_mem name.toList ⟨index, within⟩)
  exact capitalLetter_eq_iff ascii notLower

/-- A text may spell a name with letters of other alphabets and joined ones. -/
example : Spells "ınfo" "INFO" ∧ Spells "_ﬆyleſ" "_STYLES" := by decide

end Unified2.Text
