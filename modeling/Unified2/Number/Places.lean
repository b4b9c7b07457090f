import Unified2.Number.Binary64

/-! Decimal texts of floating-point numbers with a given number of places. -/

namespace Unified2.Binary64

/-- The multiple of `10 ^ exponent` that is nearest to the units, a half to the even neighbour. -/
def nearestMultiple (units : Nat) (exponent : Int) : Nat :=
  let (numerator, denominator) := scaled units exponent
  roundQuotient numerator denominator

/-- The point and the places behind it; without places there is a point only if it is asked for. -/
def pointed (keepPoint : Bool) (places : List Char) : List Char :=
  if places.isEmpty && !keepPoint then [] else '.' :: places

/-- Units as a text with so many places. -/
def fixedText (keepPoint : Bool) (places units : Nat) : List Char :=
  let digits := Nat.toDigits 10 (nearestMultiple units (-(places : Int)))
  -- There is a digit in front of the point even if all of them are places.
  let digits := List.replicate (places + 1 - digits.length) '0' ++ digits
  let whole := digits.length - places
  digits.take whole ++ pointed keepPoint (digits.drop whole)

/-- The digits of units, one more than the given number, and the exponent of the first. -/
def scientificDigits (places units : Nat) : Nat × Int :=
  if units = 0 then (0, 0)
  else
    let exponent := decimalExponent units
    let digits := nearestMultiple units (exponent - places)
    -- Rounding up to the next power of ten makes one digit too many.
    if digits < Nat.pow 10 (places + 1) then (digits, exponent) else (digits / 10, exponent + 1)

/-- Units as a text with one digit in front of the point, so many places, and an exponent. -/
def scientificText (keepPoint : Bool) (places units : Nat) : List Char :=
  let (digits, exponent) := scientificDigits places units
  let digits := Nat.toDigits 10 digits
  let digits := digits ++ List.replicate (places + 1 - digits.length) '0'
  digits.take 1 ++ pointed keepPoint (digits.drop 1) ++ (exponentText exponent).toList

/-- A text without the zeros at the end of its places, and without its point if none are left. -/
def withoutZeros (text : List Char) : List Char :=
  if text.contains '.' then
    ((text.reverse.dropWhile (· == '0')).dropWhile (· == '.')).reverse
  else text

/-- Units as a text of so many digits that count, with an exponent if it is small or has more
places than that. -/
def generalText (keepZeros : Bool) (digits units : Nat) : List Char :=
  let digits := max digits 1
  let exponent := (scientificDigits (digits - 1) units).2
  if exponent < -4 ∨ digits ≤ exponent then
    let text := scientificText keepZeros (digits - 1) units
    let (mantissa, power) := text.span (· != 'e')
    (if keepZeros then mantissa else withoutZeros mantissa) ++ power
  else
    let text := fixedText keepZeros ((digits : Int) - 1 - exponent).toNat units
    if keepZeros then text else withoutZeros text

end Unified2.Binary64
