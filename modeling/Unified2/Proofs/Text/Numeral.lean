import Unified2.Json.Reader
import Unified2.Bytes

/-! Numbers and bytes written in digits are read back from them. -/

namespace Unified2

namespace Numeral

/-- Every digit that is written has its value. -/
theorem hexValue?_digitChar {value : Nat} (small : value < 16) :
    Json.hexValue? (Nat.digitChar value) = some value := by
  -- Sixteen digits, each in one of the ranges that are looked at.
  have each : ∀ value < 16, Json.hexValue? (Nat.digitChar value) = some value := by decide
  exact each value small

/-- One more digit behind a number in a base. -/
def shift? (base number : Nat) (char : Char) : Option Nat :=
  (Json.hexValue? char).bind fun digit =>
    if digit < base then some (number * base + digit) else none

/-- The number that digits write in a base of sixteen at most. -/
def read? (base : Nat) (digits : List Char) : Option Nat :=
  if digits.isEmpty then none else digits.foldlM (shift? base) 0

/-- A digit of the base goes behind a number. -/
theorem shift?_digitChar {base digit : Nat} (small : base ≤ 16) (below : digit < base)
    (number : Nat) : shift? base number (Nat.digitChar digit) = some (number * base + digit) := by
  rw [shift?, hexValue?_digitChar (Nat.lt_of_lt_of_le below small), Option.bind_some, if_pos below]

/-- The digits of a number lead to it. -/
theorem foldlM_toDigits {base : Nat} (large : 1 < base) (small : base ≤ 16) (number : Nat) :
    (Nat.toDigits base number).foldlM (shift? base) 0 = some number := by
  -- The last digit is the remainder, and the ones before it write the quotient.
  induction number using Nat.strongRecOn with
  | ind number ih =>
    rw [Nat.toDigits_eq_if large]
    split
    · rename_i below
      rw [List.foldlM_cons, shift?_digitChar small below]
      simp
    · rename_i above
      have less : number / base < number := Nat.div_lt_self (by omega) large
      rw [List.foldlM_append, ih _ less]
      show (List.foldlM (shift? base) (number / base) [_]) = _
      rw [List.foldlM_cons, shift?_digitChar small (Nat.mod_lt _ (by omega)), Nat.mul_comm,
        Nat.div_add_mod]
      rfl

/-- A number is read back from its digits. -/
theorem read?_toDigits {base : Nat} (large : 1 < base) (small : base ≤ 16) (number : Nat) :
    read? base (Nat.toDigits base number) = some number := by
  rw [read?, if_neg (by simp [Nat.toDigits_ne_nil]), foldlM_toDigits large small]

/-- No digit is a mark that stands between numbers. -/
theorem not_mem_toDigits {base : Nat} (large : 1 < base) {mark : Char}
    (unlike : ∀ value, Nat.digitChar value ≠ mark) (number : Nat) :
    mark ∉ Nat.toDigits base number := by
  -- The mark is not the last digit, and none of those that write the quotient.
  induction number using Nat.strongRecOn with
  | ind number ih =>
    rw [Nat.toDigits_eq_if large]
    split
    · simpa using (unlike number).symm
    · rename_i above
      have less : number / base < number := Nat.div_lt_self (by omega) large
      simpa using ⟨ih _ less, (unlike (number % base)).symm⟩

/-- Between the numbers nothing but the marks stands. -/
theorem not_mem_intercalate {base : Nat} (large : 1 < base) {mark other : Char}
    (unlike : ∀ value, Nat.digitChar value ≠ other) (different : other ≠ mark)
    (numbers : List Nat) :
    other ∉ List.intercalate [mark] (numbers.map (Nat.toDigits base)) := by
  have clean := not_mem_toDigits large unlike
  induction numbers with
  | nil => simp [List.intercalate]
  | cons number rest ih =>
    cases rest with
    | nil => simpa [List.intercalate] using clean number
    | cons next rest =>
      rw [List.map_cons, List.map_cons, List.intercalate_cons_cons]
      simpa [different] using ⟨clean number, ih⟩

/-- Numbers below a bound, written with marks between them. -/
def readList? (mark : Char) (base bound : Nat) (chars : List Char) : Option (List Nat) :=
  (chars.splitOn mark).mapM fun digits => (read? base digits).filter (· < bound)

/-- Numbers are read back from their digits with marks between them. -/
theorem readList?_intercalate {mark : Char} (unlike : ∀ value, Nat.digitChar value ≠ mark)
    {base bound : Nat} (large : 1 < base) (small : base ≤ 16) {numbers : List Nat}
    (any : numbers ≠ []) (below : ∀ number ∈ numbers, number < bound) :
    readList? mark base bound (List.intercalate [mark] (numbers.map (Nat.toDigits base))) =
      some numbers := by
  -- The marks are the only places to cut.
  have pieces : (List.intercalate [mark] (numbers.map (Nat.toDigits base))).splitOn mark =
      numbers.map (Nat.toDigits base) := by
    refine List.splitOn_intercalate mark ?_ (by simpa using any)
    simp only [List.mem_map]
    rintro _ ⟨number, -, rfl⟩
    exact not_mem_toDigits large unlike number
  rw [readList?, pieces]
  clear pieces any
  induction numbers with
  | nil => rfl
  | cons number numbers ih =>
    have within := below number List.mem_cons_self
    have later := ih fun other member => below other (List.mem_cons_of_mem _ member)
    have kept : (some number).filter (· < bound) = some number := by simp [Option.filter, within]
    rw [List.map_cons, List.mapM_cons, later, read?_toDigits large small, kept]
    rfl

end Numeral

namespace Bytes

/-- The bytes that pairs of hexadecimal digits write. -/
def ofHex? : List Char → Option Bytes
  | [] => some []
  | [_] => none
  | high :: low :: rest => do
    let upper ← Json.hexValue? high
    let lower ← Json.hexValue? low
    let bytes ← ofHex? rest
    return UInt8.ofNat (upper * 16 + lower) :: bytes

/-- Bytes are read back from their hexadecimal text. -/
theorem ofHex?_hexText (bytes : Bytes) : ofHex? (hexText bytes).toList = some bytes := by
  rw [hexText, String.toList_ofList]
  -- A byte is its two digits, and the others follow it.
  induction bytes with
  | nil => rfl
  | cons byte rest ih =>
    have range := byte.toNat_lt
    have upper : Json.hexValue? (hexDigit (byte.toNat / 16)) = some (byte.toNat / 16) :=
      Numeral.hexValue?_digitChar (by omega)
    have lower : Json.hexValue? (hexDigit (byte.toNat % 16)) = some (byte.toNat % 16) :=
      Numeral.hexValue?_digitChar (by omega)
    have whole : byte.toNat / 16 * 16 + byte.toNat % 16 = byte.toNat := by omega
    simp only [List.flatMap_cons, List.cons_append, List.nil_append, ofHex?, upper, lower, ih,
      Option.bind_eq_bind, Option.bind_some, whole, UInt8.ofNat_toNat]
    rfl

end Bytes

end Unified2
