import Unified2.Number.Binary64
import Unified2.Text.Digit
import Unified2.Text.Quoted

/-! Numbers written by people: blanks around them, digits of any script, underscores in between. -/

namespace Unified2

/-- Why a text is no number. -/
inductive NumberError
  | noInteger (text : String)
  /-- An integer has more digits than any is read with. -/
  | tooManyDigits (digits : Nat)
  | noDecimal (text : String)
  deriving DecidableEq, Repr

namespace NumberText

/-- The most digits that an integer is read with. -/
def digitLimit : Nat := 4300

/-- The most characters that a message quotes of a text that is no integer. -/
def quoteLimit : Nat := 200

/-- Digits of every script as digits of the first one, and blanks as spaces; a text of the first
128 characters stays as it is. -/
def plain (text : String) : List Char :=
  if text.toList.all fun char => char.toNat < 0x80 then text.toList
  else text.toList.map fun char =>
    if char.toNat < 0x7f then char
    else if Text.isBlank char then ' '
    else match Text.digit? char with
      | some digit => Nat.digitChar digit
      -- What is neither a digit nor a blank becomes a mark that no number has.
      | none => '?'

/-- A sign in front, and what follows it. -/
def takeSign : List Char → Bool × List Char
  | '-' :: rest => (true, rest)
  | '+' :: rest => (false, rest)
  | rest => (false, rest)

/-- The number that decimal digits write. -/
def digitsValue (digits : List Char) : Nat :=
  digits.foldl (fun value char => value * 10 + (char.toNat - '0'.toNat)) 0

/-- Whether every underscore stands between two digits. -/
def underscoresBetween : (previous : Char) → List Char → Bool
  | previous, [] => previous != '_'
  | previous, char :: rest =>
    -- In front of the text stands no digit, so it cannot start with an underscore.
    (if char == '_' then previous.isDigit else previous != '_' || char.isDigit) &&
      underscoresBetween char rest

end NumberText

open NumberText

/-- The wording of the error. -/
def NumberError.message : NumberError → String
  | noInteger text =>
    "invalid literal for int() with base 10: " ++
      String.ofList ((Text.quoted text).toList.take quoteLimit)
  | tooManyDigits digits =>
    s!"Exceeds the limit ({digitLimit} digits) for integer string conversion: " ++
      s!"value has {digits} digits; use sys.set_int_max_str_digits() to increase the limit"
  | noDecimal text => "could not convert string to float: " ++ Text.quoted text

/-- The integer that a text writes: blanks, a sign, digits, blanks. -/
def Integer.parse (text : String) : Except NumberError Int :=
  let chars := (plain text).dropWhile Text.isAsciiBlank
  let (negative, chars) := takeSign chars
  let body := chars.takeWhile fun char => char.isDigit || char == '_'
  let rest := (chars.drop body.length).dropWhile Text.isAsciiBlank
  let digits := body.filter (· != '_')
  if digits.isEmpty || !underscoresBetween ' ' body then .error (.noInteger text)
  -- The digits are counted before anything is made of what follows them.
  else if digitLimit < digits.length then .error (.tooManyDigits digits.length)
  else if !rest.isEmpty then .error (.noInteger text)
  else
    let value : Int := digitsValue digits
    .ok (if negative then -value else value)

namespace Decimal

/-- The texts of what is no finite number. -/
def special? (negative : Bool) (chars : List Char) : Option Binary64 :=
  let word := String.ofList (chars.map Char.toLower)
  if word = "inf" ∨ word = "infinity" then some (.infinite negative)
  else if word = "nan" then some .nan
  else none

/-- The exponent at the end of a decimal: nothing, or a letter, a sign and digits. -/
def exponent? : List Char → Option Int
  | [] => some 0
  | letter :: rest =>
    let (negative, digits) := takeSign rest
    if (letter == 'e' || letter == 'E') && !digits.isEmpty && digits.all Char.isDigit then
      let value : Int := digitsValue digits
      some (if negative then -value else value)
    else none

/-- The number of plain characters without underscores. -/
def ofChars? (chars : List Char) : Option Binary64 :=
  let (negative, chars) := takeSign chars
  let whole := chars.takeWhile Char.isDigit
  let rest := chars.drop whole.length
  let places := match rest with
    | '.' :: rest => rest.takeWhile Char.isDigit
    | _ => []
  let rest := match rest with
    | '.' :: rest => rest.drop places.length
    | _ => rest
  -- A point alone is no number either, and none of the words.
  if whole.isEmpty && places.isEmpty then special? negative chars
  else (exponent? rest).map fun exponent =>
    -- Each place makes the exponent less by one.
    .ofDecimal negative (digitsValue (whole ++ places)) (exponent - places.length)

/-- Characters without the blanks around them. -/
def trim (chars : List Char) : List Char :=
  ((chars.dropWhile Text.isAsciiBlank).reverse.dropWhile Text.isAsciiBlank).reverse

/-- The floating-point number nearest to what a text writes. -/
def parse (text : String) : Except NumberError Binary64 :=
  let chars := trim (plain text)
  -- Underscores are judged where they stand, and only then left out.
  let number := if underscoresBetween ' ' chars then ofChars? (chars.filter (· != '_')) else none
  match number with
  | some number => .ok number
  | none => .error (.noDecimal text)

end Decimal

end Unified2
