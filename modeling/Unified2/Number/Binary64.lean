/-! Floating-point numbers of 64 bits, as exact whole numbers of a least unit. -/

namespace Unified2

/-- A floating-point number of 64 bits. A finite one is a whole number of units of `2 ^ -1074`,
with at most 53 significant bits. -/
inductive Binary64
  | nan
  | infinite (negative : Bool)
  | finite (negative : Bool) (units : Nat)
  deriving DecidableEq, Repr

namespace Binary64

/-- The units that make one. -/
def unitsPerOne : Nat := Nat.pow 2 1074

/-- The least number of units that is no longer finite. -/
def overflow : Nat := Nat.pow 2 (1074 + 1024)

/-- How far apart the numbers of this many units are. -/
def spacing (units : Nat) : Nat := Nat.pow 2 (units.log2 - 52)

/-- A quotient rounded to the nearest whole number, a half to the even neighbour. -/
def roundQuotient (numerator denominator : Nat) : Nat :=
  let quotient := numerator / denominator
  let twice := 2 * (numerator % denominator)
  -- More than a half goes up, and so does a half above an odd quotient.
  if denominator < twice ∨ (twice = denominator ∧ quotient % 2 = 1) then quotient + 1 else quotient

/-- The number nearest to a quotient of units, a half to the even neighbour. -/
def ofUnits (negative : Bool) (numerator denominator : Nat) : Binary64 :=
  let step := spacing (numerator / denominator)
  let units := roundQuotient numerator (denominator * step) * step
  -- Rounding may have gone up to the first number that is too large.
  if overflow ≤ units then infinite negative else finite negative units

/-- The number nearest to `digits * 10 ^ exponent`. -/
def ofDecimal (negative : Bool) (digits : Nat) (exponent : Int) : Binary64 :=
  -- Far out, the answer is known without the power of ten.
  if digits = 0 then finite negative 0
  else if 400 < exponent then infinite negative
  else if exponent + digits.log2 < -400 then finite negative 0
  else if 0 ≤ exponent then ofUnits negative (digits * Nat.pow 10 exponent.toNat * unitsPerOne) 1
  else ofUnits negative (digits * unitsPerOne) (Nat.pow 10 (-exponent).toNat)

/-- The number nearest to a whole number. -/
def ofInt (value : Int) : Binary64 := ofUnits (value < 0) (value.natAbs * unitsPerOne) 1

/-- The units with their sign. -/
def signed (negative : Bool) (units : Nat) : Int := if negative then -units else units

/-- The number nearest to the sum. -/
def add : Binary64 → Binary64 → Binary64
  | nan, _ | _, nan => nan
  | infinite left, infinite right => if left = right then infinite left else nan
  | infinite negative, finite _ _ | finite _ _, infinite negative => infinite negative
  | finite left units, finite right others =>
    let sum := signed left units + signed right others
    -- Only two negative zeros have a negative zero as their sum.
    ofUnits (if sum = 0 then left && right else sum < 0) sum.natAbs 1

/-- Whether the first number is at most the second; what is not a number is never. -/
def atMost : Binary64 → Binary64 → Bool
  | nan, _ | _, nan => false
  | infinite negative, right => negative || right == infinite false
  | finite _ _, infinite negative => !negative
  | finite left units, finite right others => signed left units ≤ signed right others

/-- Whether the number is at most zero; this is no order on what is not a number. -/
def isNotPositive : Binary64 → Bool
  | nan => false
  | infinite negative => negative
  | finite negative units => negative || units == 0

/-- How many times a fraction is multiplied by ten until it is no longer below one. -/
def tenfolds : (steps : Nat) → (units : Nat) → Nat
  | 0, _ => 0
  | steps + 1, units => if unitsPerOne ≤ units then 0 else tenfolds steps (units * 10) + 1

/-- The exponent of the largest power of ten that is no larger than the units. -/
def decimalExponent (units : Nat) : Int :=
  if unitsPerOne ≤ units then (Nat.toDigits 10 (units / unitsPerOne)).length - 1
  else -(tenfolds 324 units : Int)

/-- The quotient of units by `10 ^ exponent`, as numerator and denominator. -/
def scaled (units : Nat) (exponent : Int) : Nat × Nat :=
  if 0 ≤ exponent then (units, unitsPerOne * Nat.pow 10 exponent.toNat)
  else (units * Nat.pow 10 (-exponent).toNat, unitsPerOne)

/-- The multiple of `10 ^ exponent` next to the units that reads back as them, the nearer one if
both do. -/
def neighbour? (units : Nat) (exponent : Int) : Option Nat :=
  let (numerator, denominator) := scaled units exponent
  let below := numerator / denominator
  let readsBack (digits : Nat) : Bool := ofDecimal false digits exponent == finite false units
  -- Both neighbours may read back, and then the nearer one is shown.
  if readsBack below && readsBack (below + 1) then some (roundQuotient numerator denominator)
  else if readsBack below then some below
  else if readsBack (below + 1) then some (below + 1)
  else none

/-- The coarsest of the next grids on which a decimal reads back as the units. -/
def shortestWithin (units : Nat) : (grids : Nat) → (exponent : Int) → Nat × Int
  -- The grids are as many as digits can be needed, so one of them was fine enough.
  | 0, exponent => ((scaled units exponent).1 / (scaled units exponent).2, exponent)
  | grids + 1, exponent =>
    match neighbour? units exponent with
    | some digits => (digits, exponent)
    | none => shortestWithin units grids (exponent - 1)

/-- The digits and the exponent of the shortest decimal that reads back as the units; seventeen
digits are always enough. -/
def shortest (units : Nat) : Nat × Int := shortestWithin units 17 (decimalExponent units)

/-- Digits without the zeros at their end, and the exponent that makes up for them. -/
def stripZeros : (steps : Nat) → Nat → Int → Nat × Int
  | 0, digits, exponent => (digits, exponent)
  | steps + 1, digits, exponent =>
    if digits % 10 = 0 then stripZeros steps (digits / 10) (exponent + 1) else (digits, exponent)

/-- The exponent of a text: a sign and two digits at least. -/
def exponentText (exponent : Int) : String :=
  let digits := toString exponent.natAbs
  (if exponent < 0 then "e-" else "e+") ++ (if digits.length < 2 then "0" else "") ++ digits

/-- A positive decimal as text: without an exponent from `10 ^ -4` on and below `10 ^ 16`, and then
with one place at least. -/
def decimalText (digits : Nat) (exponent : Int) : String :=
  let chars := Nat.toDigits 10 digits
  let point : Int := chars.length + exponent
  -- Far away from the point an exponent says where it is.
  if point ≤ -4 ∨ 16 < point then
    String.ofList (chars.take 1 ++ if chars.length = 1 then [] else '.' :: chars.drop 1) ++
      exponentText (point - 1)
  -- Zeros fill the way from the point to the digits, or from the digits to the point.
  else if point ≤ 0 then
    String.ofList ('0' :: '.' :: List.replicate (-point).toNat '0' ++ chars)
  else if chars.length ≤ point.toNat then
    String.ofList (chars ++ List.replicate (point.toNat - chars.length) '0' ++ ['.', '0'])
  else String.ofList (chars.take point.toNat ++ '.' :: chars.drop point.toNat)

/-- The text of a number that is not negative, by its units. -/
def unitsText (units : Nat) : String :=
  if units = 0 then "0.0"
  else
    let (digits, exponent) := shortest units
    -- A grid that was fine enough may have been finer than it had to be.
    let (digits, exponent) := stripZeros 17 digits exponent
    decimalText digits exponent

/-- The shortest text that reads back as the number. -/
def text : Binary64 → String
  | nan => "nan"
  | infinite negative => if negative then "-inf" else "inf"
  | finite negative units => (if negative then "-" else "") ++ unitsText units

end Binary64

end Unified2
