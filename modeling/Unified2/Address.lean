import Unified2.Text.Quoted

/-! Network addresses and their texts. -/

namespace Unified2

/-- An address of four bytes or of sixteen. -/
inductive Address
  | ip4 (bytes : Bytes)
  | ip6 (bytes : Bytes)
  deriving DecidableEq, Repr

/-- Bytes whose number makes them no address. -/
structure NoAddress where
  bytes : Bytes
  deriving DecidableEq, Repr

/-- The wording of the error. -/
def NoAddress.message (error : NoAddress) : String :=
  Text.quotedBytes error.bytes ++ " does not appear to be an IPv4 or IPv6 address"

namespace Address

/-- The address that bytes are, told by their number. -/
def ofBytes (bytes : Bytes) : Except NoAddress Address :=
  if bytes.length = 4 then .ok (ip4 bytes)
  else if bytes.length = 16 then .ok (ip6 bytes)
  -- A decoded event always has one of the two widths; one that was put together need not.
  else .error ⟨bytes⟩

/-- The version of the protocol that the address belongs to. -/
def version : Address → Nat
  | ip4 _ => 4
  | ip6 _ => 6

/-- The numbers of the two-byte groups of an address. -/
def groups : Bytes → List Nat
  -- Sixteen bytes make eight groups, and no byte is left over.
  | high :: low :: rest => (high.toNat * 256 + low.toNat) :: groups rest
  | _ => []

/-- How many zero groups come first. -/
def leadingZeros (groups : List Nat) : Nat := (groups.takeWhile (· == 0)).length

/-- Where the longest run of zero groups starts and how long it is; of equal runs the first. -/
def longestZeroRun : List Nat → Nat × Nat
  | [] => (0, 0)
  | group :: rest =>
    let here := leadingZeros (group :: rest)
    let later := longestZeroRun rest
    -- A run that is no longer than the first one does not take its place.
    if later.2 ≤ here then (0, here) else (later.1 + 1, later.2)

/-- Groups in lower-case hexadecimal without leading zeros, with colons between them. -/
def groupsText (groups : List Nat) : List Char :=
  List.intercalate [':'] (groups.map (Nat.toDigits 16))

/-- Eight groups as text, with a double colon for the longest run of two or more zero groups. -/
def ip6Text (groups : List Nat) : List Char :=
  let run := longestZeroRun groups
  -- A single zero group is written out, for a double colon would be no shorter.
  if run.2 < 2 then groupsText groups
  else groupsText (groups.take run.1) ++ [':', ':'] ++ groupsText (groups.drop (run.1 + run.2))

/-- Four bytes as decimal numbers with dots between them. -/
def ip4Text (bytes : Bytes) : List Char :=
  List.intercalate ['.'] (bytes.map fun byte => Nat.toDigits 10 byte.toNat)

/-- The characters of an address's text. -/
def chars : Address → List Char
  | ip4 bytes => ip4Text bytes
  | ip6 bytes => ip6Text (groups bytes)

/-- The text of an address. -/
def text (address : Address) : String := String.ofList address.chars

end Address

end Unified2
