import Unified2.Json.Escape
import Unified2.Proofs.Text.Numeral

/-! Named texts on one line: all of it is plain ASCII, and a reader of documents gives the names and
the texts back. -/

namespace Unified2.Json

/-- A visible ASCII character, or a blank; no line break is one. -/
def IsPlain (char : Char) : Prop := 0x20 ≤ char.toNat ∧ char.toNat < 0x7f

instance (char : Char) : Decidable (IsPlain char) := inferInstanceAs (Decidable (_ ∧ _))

section Escapes

/-- Every number of sixteen bits is written in four digits and read back from them. -/
theorem exists_hexDigits {unit : Nat} (fits : unit < 0x10000) :
    ∃ first second third fourth, Text.hexDigits 4 unit = [first, second, third, fourth] ∧
      hexUnit? first second third fourth = some unit := by
  refine ⟨_, _, _, _, rfl, ?_⟩
  -- Each digit has the value that it was written for, and the values add up to the number.
  have digit : ∀ value, hexValue? (hexDigit (value % 16)) = some (value % 16) := fun value =>
    Numeral.hexValue?_digitChar (Nat.mod_lt _ (by decide))
  simp only [hexUnit?, digit, Option.bind_eq_bind, Option.bind_some, Option.pure_def,
    Option.some.injEq]
  omega

/-- A character stands for itself, or for two halves of a pair. -/
theorem units_cases (char : Char) :
    (char.toNat < 0x10000 ∧ units char = [char.toNat]) ∨
      (0x10000 ≤ char.toNat ∧ units char =
        [0xd800 + (char.toNat - 0x10000) / 0x400, 0xdc00 + (char.toNat - 0x10000) % 0x400]) := by
  by_cases low : char.toNat < 0x10000
  · exact .inl ⟨low, if_pos low⟩
  · exact .inr ⟨Nat.le_of_not_lt low, if_neg low⟩

/-- No character has a code point beyond the planes, or that of half a pair. -/
theorem toNat_ranges (char : Char) :
    char.toNat < 0xd800 ∨ (0xdfff < char.toNat ∧ char.toNat < 0x110000) := char.valid

/-- The numbers that stand for a character have sixteen bits. -/
theorem lt_of_mem_units {char : Char} {unit : Nat} (isIn : unit ∈ units char) :
    unit < 0x10000 := by
  have ranges := toNat_ranges char
  rcases units_cases char with ⟨low, same⟩ | ⟨high, same⟩ <;> rw [same] at isIn
  · rwa [List.mem_singleton.mp isIn]
  · simp only [List.mem_cons, List.not_mem_nil, or_false] at isIn
    omega

/-- Every short escape stands for its character, and begins no escape by number. -/
theorem shortEscape?_of_lookup {char letter : Char}
    (found : shortEscapes.lookup char = some letter) :
    shortEscape? letter = some char ∧ letter ≠ 'u' ∧ char.toNat < 0x10000 := by
  have each : ∀ pair ∈ shortEscapes,
      shortEscape? pair.2 = some pair.1 ∧ pair.2 ≠ 'u' ∧ pair.1.toNat < 0x10000 := by decide
  obtain ⟨before, behind, split, -⟩ := List.lookup_eq_some_iff.mp found
  exact each (char, letter) (by simp [split])

end Escapes

section Reading

/-- An escape by number is read as that number. -/
theorem stringUnits_unitEscape {unit : Nat} (fits : unit < 0x10000) (rest : List Char)
    (read : List Nat) :
    stringUnits (unitEscape unit ++ rest) read = stringUnits rest (unit :: read) := by
  -- Four digits follow the letter, whatever the number is.
  obtain ⟨first, second, third, fourth, digits, value⟩ := exists_hexDigits fits
  simp only [unitEscape, digits, List.cons_append, List.nil_append, stringUnits, value]

/-- Escapes by number are read one after the other. -/
theorem stringUnits_flatMap_unitEscape {numbers : List Nat}
    (fit : ∀ unit ∈ numbers, unit < 0x10000) (rest : List Char) (read : List Nat) :
    stringUnits (numbers.flatMap unitEscape ++ rest) read =
      stringUnits rest (numbers.reverse ++ read) := by
  induction numbers generalizing read with
  | nil => rfl
  | cons unit numbers ih =>
    rw [List.flatMap_cons, List.append_assoc,
      stringUnits_unitEscape (fit unit List.mem_cons_self),
      ih (fun other isIn => fit other (List.mem_cons_of_mem _ isIn)), List.reverse_cons,
      List.append_assoc, List.singleton_append]

/-- An escaped character is read as the numbers that stand for it. -/
theorem stringUnits_escapedChar (char : Char) (rest : List Char) (read : List Nat) :
    stringUnits (escapedChar char ++ rest) read =
      stringUnits rest ((units char).reverse ++ read) := by
  unfold escapedChar
  split
  · -- Short escapes: a letter behind the backslash says which character it is.
    rename_i letter found
    obtain ⟨means, notNumber, low⟩ := shortEscape?_of_lookup found
    have single : units char = [char.toNat] := if_pos low
    rw [single, List.cons_append, List.cons_append, List.nil_append, stringUnits]
    · simp only [means, List.reverse_singleton, List.singleton_append]
    · intro _ _ _ _ _ number
      exact absurd number notNumber
  · rename_i absent
    have noQuote : char ≠ '\x22' := by
      rintro rfl
      simp [shortEscapes] at absent
    have noSlash : char ≠ '\\' := by
      rintro rfl
      simp [shortEscapes] at absent
    split
    · -- A visible character stands for itself.
      rename_i visible
      have single : units char = [char.toNat] := if_pos (by omega)
      rw [single, List.singleton_append, stringUnits]
      · rw [if_neg (by simp [noSlash]; omega)]
        rfl
      · exact noQuote
      · intro _ _ _ _ _ slash
        exact absurd slash noSlash
      · intro _ _ slash
        exact absurd slash noSlash
    · -- Any other character is escaped by the one or two numbers that stand for it.
      exact stringUnits_flatMap_unitEscape (fun _ => lt_of_mem_units) rest read

/-- A string is read as the numbers that stand for its characters, up to its closing quote. -/
theorem stringUnits_text (chars rest : List Char) (read : List Nat) :
    stringUnits (chars.flatMap escapedChar ++ '\x22' :: rest) read =
      .ok (read.reverse ++ chars.flatMap units, rest) := by
  induction chars generalizing read with
  | nil => simp [stringUnits]
  | cons char chars ih =>
    -- What was read so far is kept in reverse, so each character is put before it.
    rw [List.flatMap_cons, List.append_assoc, stringUnits_escapedChar, ih, List.reverse_append,
      List.reverse_reverse, List.flatMap_cons, List.append_assoc]

/-- A number that is no half of a pair is joined with nothing. -/
theorem joinPairs_cons_of_whole {unit : Nat} (whole : unit < 0xd800 ∨ 0xdfff < unit)
    (rest : List Nat) : joinPairs (unit :: rest) = .char (Char.ofNat unit) :: joinPairs rest := by
  -- Only a half would be kept as a number of its own.
  have single : singlePoint unit = .char (Char.ofNat unit) := if_neg (by omega)
  cases rest with
  | nil => rw [joinPairs, single, joinPairs]
  | cons next rest => rw [joinPairs, if_neg (by omega), single]

/-- The numbers that stand for characters are joined to these characters. -/
theorem joinPairs_flatMap_units (chars : List Char) :
    joinPairs (chars.flatMap units) = chars.map CodePoint.char := by
  induction chars with
  | nil => rfl
  | cons char chars ih =>
    have ranges := toNat_ranges char
    rw [List.flatMap_cons, List.map_cons]
    rcases units_cases char with ⟨low, same⟩ | ⟨high, same⟩ <;> rw [same]
    · rw [List.singleton_append, joinPairs_cons_of_whole (by omega), ih, Char.ofNat_toNat]
    · -- The first half is a high one and the second a low one, and both together are the character.
      have code : 0x10000 + (0xd800 + (char.toNat - 0x10000) / 0x400 - 0xd800) * 0x400 +
          (0xdc00 + (char.toNat - 0x10000) % 0x400 - 0xdc00) = char.toNat := by omega
      rw [List.cons_append, List.singleton_append, joinPairs, if_pos (by omega), code, ih,
        Char.ofNat_toNat]

/-- A string is read back up to its closing quote. -/
theorem readString_text (text : String) (rest : List Char) :
    readString (text.toList.flatMap escapedChar ++ '\x22' :: rest) =
      .ok (CodeText.ofString text, rest) := by
  rw [readString, stringUnits_text]
  show Except.ok (joinPairs _, rest) = _
  rw [List.reverse_nil, List.nil_append, joinPairs_flatMap_units, CodeText.ofString]

/-- A named text as it stands in a line. -/
def member (named : String × String) : List Char :=
  string named.1 ++ [':', ' '] ++ string named.2

/-- A named text as a reader gives it. -/
def read (named : String × String) : CodeText × JsonValue :=
  (.ofString named.1, .string (.ofString named.2))

/-- A member that stands in front is read, and what follows it is looked at next. -/
theorem readMembers_member (steps depth : Nat) (named : String × String) (rest : List Char) :
    readMembers (steps + 2) depth (member named ++ rest) =
      match skipBlanks rest with
      | '\x7d' :: rest => .ok ([read named], rest)
      | ',' :: rest => do
        let (members, rest) ← readMembers (steps + 1) depth (skipBlanks rest)
        return (read named :: members, rest)
      | _ => .error .malformed := by
  obtain ⟨name, text⟩ := named
  -- Spelled out, the reader meets a quote, the name, a quote, a colon, a blank and the text.
  have shape : member (name, text) ++ rest = '\x22' :: (name.toList.flatMap escapedChar ++
      '\x22' :: ':' :: ' ' :: '\x22' :: (text.toList.flatMap escapedChar ++ '\x22' :: rest)) := by
    simp [member, string]
  have blank : ∀ chars, skipBlanks (' ' :: '\x22' :: chars) = '\x22' :: chars := fun _ => rfl
  have colon : ∀ chars, skipBlanks (':' :: chars) = ':' :: chars := fun _ => rfl
  rw [shape, readMembers, readString_text]
  simp only [bind, Except.bind, colon, blank, readValue, readString_text, pure, Except.pure]
  rfl

/-- Members as they stand in a line: a comma and a blank between one and the next. -/
def row (members : List (String × String)) : List Char :=
  List.intercalate [',', ' '] (members.map member)

/-- A single member has nothing beside it. -/
theorem row_singleton (named : String × String) : row [named] = member named := by
  simp [row, List.intercalate]

/-- The first member stands in front of the others. -/
theorem row_cons_cons (named next : String × String) (members : List (String × String)) :
    row (named :: next :: members) = member named ++ ',' :: ' ' :: row (next :: members) := by
  rw [row, List.map_cons, List.map_cons, List.intercalate_cons_cons, ← List.map_cons,
    List.append_assoc]
  rfl

/-- A line has its members between braces. -/
theorem toList_line (members : List (String × String)) :
    (line members).toList = '\x7b' :: (row members ++ ['\x7d']) :=
  String.toList_ofList

/-- What is written of members begins with the quote of the first name. -/
theorem exists_row_eq_cons (named : String × String) (members : List (String × String)) :
    ∃ rest, row (named :: members) = '\x22' :: rest := by
  cases members with
  | nil =>
    rw [row_singleton]
    exact ⟨_, rfl⟩
  | cons next members =>
    rw [row_cons_cons]
    exact ⟨_, rfl⟩

/-- Members are read back one after the other, up to the closing brace. -/
theorem readMembers_row (depth : Nat) (named : String × String)
    (members : List (String × String)) (rest : List Char) {steps : Nat}
    (enough : members.length + 2 ≤ steps) :
    readMembers steps depth (row (named :: members) ++ '\x7d' :: rest) =
      .ok ((named :: members).map read, rest) := by
  induction members generalizing named steps with
  | nil =>
    -- The brace behind the only member is the end.
    obtain ⟨steps, rfl⟩ := Nat.exists_eq_add_of_le' enough
    rw [row_singleton, List.length_nil, readMembers_member]
    rfl
  | cons next members ih =>
    obtain ⟨steps, rfl⟩ := Nat.exists_eq_add_of_le' enough
    rw [List.length_cons] at enough ⊢
    have fits : members.length + 2 ≤ steps + (members.length + 1) + 1 := by omega
    have later := ih next fits
    obtain ⟨text, begins⟩ := exists_row_eq_cons next members
    rw [row_cons_cons, List.append_assoc, ← Nat.add_assoc, readMembers_member]
    -- Behind the comma a blank is left out, and the next name begins.
    have comma : ∀ chars, skipBlanks (',' :: chars) = ',' :: chars := fun _ => rfl
    have blank : ∀ chars, skipBlanks (' ' :: '\x22' :: chars) = '\x22' :: chars := fun _ => rfl
    rw [begins] at later ⊢
    simp only [List.cons_append, comma, blank] at later ⊢
    rw [later]
    rfl

/-- Every member takes a character at least. -/
theorem length_le_row (members : List (String × String)) :
    members.length ≤ (row members).length := by
  induction members with
  | nil => exact Nat.zero_le _
  | cons named members ih =>
    cases members with
    | nil =>
      obtain ⟨text, begins⟩ := exists_row_eq_cons named []
      rw [begins]
      simp
    | cons next members =>
      rw [row_cons_cons]
      simp only [List.length_append, List.length_cons] at ih ⊢
      omega

/-- A line is one document: an object with all of its members, in order. -/
theorem parse_line (named : String × String) (members : List (String × String)) :
    parse (line (named :: members)) = .ok (.object ((named :: members).map read)) := by
  obtain ⟨text, begins⟩ := exists_row_eq_cons named members
  -- The reader is given twice as many steps as there are characters.
  have short := length_le_row (named :: members)
  rw [begins] at short
  rw [parse, toList_line, begins]
  generalize size : 2 * ('\x7b' :: ('\x22' :: text ++ ['\x7d'])).length + 2 = steps
  -- There is a step for the object, one for each member and its text, and some are left.
  have enough : members.length + 2 ≤ steps - 1 := by
    simp only [List.length_cons, List.length_append] at size short
    omega
  have reads := readMembers_row (depthLimit - 1) named members [] enough
  rw [begins] at reads
  obtain ⟨steps, rfl⟩ : ∃ left, steps = left + 1 := ⟨steps - 1, by omega⟩
  rw [Nat.add_sub_cancel] at reads
  rw [List.cons_append] at reads ⊢
  -- The brace opens an object, and the quote behind it its first member.
  have value : readValue (steps + 1) depthLimit ('\x7b' :: '\x22' :: (text ++ ['\x7d'])) =
      .ok (.object ((named :: members).map read), []) := by
    rw [readValue, if_neg (by decide)]
    show (readMembers steps (depthLimit - 1) ('\x22' :: (text ++ ['\x7d'])) >>=
      fun found => pure (JsonValue.object found.1, found.2)) = _
    rw [reads]
    rfl
  show (readValue (steps + 1) depthLimit ('\x7b' :: '\x22' :: (text ++ ['\x7d'])) >>= _) = _
  rw [value]
  rfl

end Reading

section Plain

/-- An escape by number is plain. -/
theorem isPlain_of_mem_unitEscape {unit : Nat} {char : Char} (isIn : char ∈ unitEscape unit) :
    IsPlain char := by
  have digit : ∀ value, IsPlain (hexDigit (value % 16)) := by
    intro value
    have each : ∀ digit < 16, IsPlain (hexDigit digit) := by decide
    exact each _ (Nat.mod_lt _ (by decide))
  simp only [unitEscape, Text.hexDigits, List.nil_append, List.cons_append, List.mem_cons,
    List.not_mem_nil, or_false] at isIn
  -- A backslash, the letter of the escape, or one of the digits.
  rcases isIn with rfl | rfl | rfl | rfl | rfl | rfl
  · decide
  · decide
  all_goals exact digit _

/-- An escaped character is plain. -/
theorem isPlain_of_mem_escapedChar {char escaped : Char} (isIn : escaped ∈ escapedChar char) :
    IsPlain escaped := by
  unfold escapedChar at isIn
  split at isIn
  · -- The backslash or the letter of a short escape.
    rename_i letter found
    have each : ∀ pair ∈ shortEscapes, IsPlain pair.2 := by decide
    obtain ⟨before, behind, split, -⟩ := List.lookup_eq_some_iff.mp found
    simp only [List.mem_cons, List.not_mem_nil, or_false] at isIn
    rcases isIn with rfl | rfl
    · decide
    · exact each (char, escaped) (by simp [split])
  · split at isIn
    · rename_i visible
      rwa [List.mem_singleton.mp isIn]
    · obtain ⟨unit, -, within⟩ := List.mem_flatMap.mp isIn
      exact isPlain_of_mem_unitEscape within

/-- A text that is written as a string is plain. -/
theorem isPlain_of_mem_string {text : String} {char : Char} (isIn : char ∈ string text) :
    IsPlain char := by
  simp only [string, List.cons_append, List.mem_cons, List.mem_append, List.mem_flatMap,
    List.not_mem_nil, or_false] at isIn
  rcases isIn with rfl | ⟨_, -, within⟩ | rfl
  · decide
  · exact isPlain_of_mem_escapedChar within
  · decide

/-- A named text in a line is plain. -/
theorem isPlain_of_mem_member {named : String × String} {char : Char}
    (isIn : char ∈ member named) : IsPlain char := by
  simp only [member, List.mem_append, List.mem_cons, List.not_mem_nil, or_false] at isIn
  rcases isIn with (within | rfl | rfl) | within
  · exact isPlain_of_mem_string within
  · decide
  · decide
  · exact isPlain_of_mem_string within

/-- All that stands between the braces of a line is plain. -/
theorem isPlain_of_mem_row {members : List (String × String)} {char : Char}
    (isIn : char ∈ row members) : IsPlain char := by
  induction members with
  | nil => exact absurd isIn List.not_mem_nil
  | cons named members ih =>
    cases members with
    | nil =>
      rw [row_singleton] at isIn
      exact isPlain_of_mem_member isIn
    | cons next members =>
      rw [row_cons_cons, List.mem_append, List.mem_cons, List.mem_cons] at isIn
      -- The member in front, the comma, the blank, or a later member.
      rcases isIn with within | rfl | rfl | within
      · exact isPlain_of_mem_member within
      · decide
      · decide
      · exact ih within

/-- All of a line is plain, whatever the names and the texts are. -/
theorem isPlain_of_mem_line {members : List (String × String)} {char : Char}
    (isIn : char ∈ (line members).toList) : IsPlain char := by
  rw [toList_line, List.mem_cons, List.mem_append, List.mem_singleton] at isIn
  -- A brace, or what stands between the braces.
  rcases isIn with rfl | within | rfl
  · decide
  · exact isPlain_of_mem_row within
  · decide

end Plain

end Unified2.Json
