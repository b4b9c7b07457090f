/-! Byte strings, and the big-endian numbers that the log format writes in them. -/

namespace Unified2

/-- A byte string. -/
abbrev Bytes := List UInt8

namespace BigEndian

/-- The number whose base-256 digits are the bytes, most significant first. -/
def decode (bytes : Bytes) : Nat :=
  bytes.foldl (fun value byte => value * 256 + byte.toNat) 0

/-- The last `width` base-256 digits of a number, most significant first. -/
def encode : (width value : Nat) → Bytes
  | 0, _ => []
  | width + 1, value => encode width (value / 256) ++ [UInt8.ofNat value]

/-- An encoding is as wide as asked. -/
@[simp] theorem length_encode (width value : Nat) : (encode width value).length = width := by
  -- Every step writes one digit after the wider ones.
  induction width generalizing value with
  | zero => rfl
  | succ width ih => simp [encode, ih]

/-- A digit written last is the least significant one. -/
theorem decode_snoc (bytes : Bytes) (byte : UInt8) :
    decode (bytes ++ [byte]) = decode bytes * 256 + byte.toNat := by
  -- The fold meets the last byte last.
  simp [decode]

end BigEndian

/-- The digit of a number below sixteen, in lower case. -/
def hexDigit (value : Nat) : Char := Nat.digitChar value

/-- A byte string in lower-case hexadecimal, two digits a byte. -/
def hexText (bytes : Bytes) : String :=
  String.ofList (bytes.flatMap fun byte =>
    [hexDigit (byte.toNat / 16), hexDigit (byte.toNat % 16)])

end Unified2
