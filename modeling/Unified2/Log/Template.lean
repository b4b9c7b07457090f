import Unified2.Log.Argument

/-! Messages with places that arguments are put into. -/

namespace Unified2

/-- A number in a place: written there, or taken from the arguments. -/
inductive PlaceNumber
  | digits (value : Nat)
  | argument
  deriving DecidableEq, Repr

/-- A place in a template. -/
structure Place where
  /-- The name of the member that goes here, in a template for a dictionary. -/
  key : Option String
  leftAligned : Bool
  signShown : Bool
  signBlank : Bool
  alternate : Bool
  zeroFilled : Bool
  width : Option PlaceNumber
  precision : Option PlaceNumber
  /-- How the argument is shown. -/
  letter : Char
  deriving DecidableEq, Repr

namespace Place

/-- Reads a key up to the parenthesis that closes it, and gives the characters after it. -/
def readKey : (depth : Nat) → List Char → Option (List Char × List Char)
  | _, [] => none
  | depth, '(' :: rest => do
    -- A key may hold parentheses, as long as each is closed.
    let (key, rest) ← readKey (depth + 1) rest
    return ('(' :: key, rest)
  | 0, ')' :: rest => some ([], rest)
  | depth + 1, ')' :: rest => do
    let (key, rest) ← readKey depth rest
    return (')' :: key, rest)
  | depth, char :: rest => do
    let (key, rest) ← readKey depth rest
    return (char :: key, rest)

/-- Reads a number, if there is one. -/
def readNumber (chars : List Char) : Option PlaceNumber × List Char :=
  match chars with
  -- A star takes the number from the arguments.
  | '*' :: rest => (some .argument, rest)
  | chars =>
    let digits := chars.takeWhile Char.isDigit
    if digits.isEmpty then (none, chars)
    else
      let value := digits.foldl (fun value char => value * 10 + (char.toNat - '0'.toNat)) 0
      (some (.digits value), chars.drop digits.length)

/-- Reads a place after its percent sign, and gives the characters after it. -/
def read (chars : List Char) : Option (Place × List Char) := do
  let (key, chars) ← match chars with
    | '(' :: rest => do
      let (key, rest) ← readKey 0 rest
      pure (some (String.ofList key), rest)
    | chars => pure (none, chars)
  let flags := chars.takeWhile fun char => "-+ #0".toList.contains char
  let (width, chars) := readNumber (chars.drop flags.length)
  let (precision, chars) := match chars with
    | '.' :: rest =>
      let (precision, rest) := readNumber rest
      (some (precision.getD (.digits 0)), rest)
    | chars => (none, chars)
  -- A letter for the size of a number says nothing here.
  let chars := match chars with
    | size :: rest => if "hlL".toList.contains size then rest else chars
    | [] => []
  match chars with
  | [] => none
  | letter :: rest =>
    some ({
      key, width, precision, letter
      leftAligned := flags.contains '-'
      signShown := flags.contains '+'
      signBlank := flags.contains ' '
      alternate := flags.contains '#'
      zeroFilled := flags.contains '0' }, rest)

/-- Fills a shown argument up to a width. -/
def pad (place : Place) (width : Nat) (mark body : List Char) (zeros : Bool) : List Char :=
  let missing := width - (mark.length + body.length)
  -- To the left there is no filling with zeros.
  if place.leftAligned then mark ++ body ++ List.replicate missing ' '
  else if zeros then mark ++ List.replicate missing '0' ++ body
  else List.replicate missing ' ' ++ mark ++ body

/-- The sign of a number, as far as the place shows it. -/
def sign (place : Place) (negative : Bool) : List Char :=
  if negative then ['-']
  else if place.signShown then ['+']
  else if place.signBlank then [' ']
  else []

/-- A whole number in the base of the place, with so many digits at least. -/
def integerText (place : Place) (precision : Nat) (value : Int) : List Char × List Char :=
  let base := if place.letter = 'o' then 8 else if "xX".toList.contains place.letter then 16 else 10
  let digits := Nat.toDigits base value.natAbs
  -- The precision counts digits only, not the sign and not the mark of the base.
  let digits := List.replicate (precision - digits.length) '0' ++ digits
  let mark := if place.alternate && base != 10 then ['0', place.letter] else []
  (place.sign (value < 0) ++ mark,
    if place.letter = 'X' then digits.map Char.toUpper else digits)

/-- A floating-point number in the notation of the place. -/
def decimalText (place : Place) (precision : Nat) (value : Binary64) : List Char × List Char :=
  let body (units : Nat) : List Char := match place.letter.toLower with
    | 'f' => Binary64.fixedText place.alternate precision units
    | 'e' => Binary64.scientificText place.alternate precision units
    | _ => Binary64.generalText place.alternate precision units
  let (negative, body) : Bool × List Char := match value with
    | .nan => (false, "nan".toList)
    | .infinite negative => (negative, "inf".toList)
    | .finite negative units => (negative, body units)
  (place.sign negative, if place.letter.isUpper then body.map Char.toUpper else body)

/-- An argument at a place of a width and a precision, if it fits there. -/
def fill? (place : Place) (width : Nat) (precision : Option Nat) (argument : LogArgument) :
    Option (List Char) :=
  let text (chars : List Char) : List Char :=
    -- The precision of a text is where it is cut.
    place.pad width [] (chars.take (precision.getD chars.length)) false
  let number (parts : List Char × List Char) : List Char :=
    place.pad width parts.1 parts.2 place.zeroFilled
  match place.letter with
  | 's' => some (text argument.shown)
  | 'r' => some (text argument.quoted)
  | 'a' => some (text (Text.inAscii (String.ofList argument.quoted)).toList)
  | 'c' => argument.char?.map fun char => place.pad width [] [char] false
  | 'd' | 'i' | 'u' =>
    argument.truncated?.map fun value => number (place.integerText (precision.getD 0) value)
  | 'o' | 'x' | 'X' =>
    argument.integer?.map fun value => number (place.integerText (precision.getD 0) value)
  | 'e' | 'E' | 'f' | 'F' | 'g' | 'G' =>
    argument.decimal?.map fun value => number (place.decimalText (precision.getD 6) value)
  | _ => none

end Place

/-- The arguments that a template takes: those that are left, and the dictionary if it is one. -/
structure LogSupply where
  rest : List LogArgument
  dictionary : Option (List (String × LogArgument))

namespace LogSupply

/-- The next argument. -/
def next? (supply : LogSupply) : Option (LogArgument × LogSupply) :=
  match supply.rest with
  | argument :: rest => some (argument, { supply with rest })
  | [] => none

/-- The arguments for a place with a key: the member of that name. -/
def at? (supply : LogSupply) : (key : Option String) → Option LogSupply
  | none => some supply
  -- A place with a key takes that one member, and nothing else is used up.
  | some key => do return { supply with rest := [← (← supply.dictionary).lookup key] }

/-- The number in a place, which may be the next argument. -/
def number? (supply : LogSupply) : Option PlaceNumber → Option (Option Int × LogSupply)
  | none => some (none, supply)
  | some (.digits value) => some (some value, supply)
  | some .argument => do
    let (argument, supply) ← supply.next?
    return (some (← argument.integer?), supply)

end LogSupply

/-- Shows the next argument at a place. -/
def fillPlace (place : Place) (supply : LogSupply) : Option (List Char × LogSupply) := do
  let supply ← supply.at? place.key
  let (width, supply) ← supply.number? place.width
  let (precision, supply) ← supply.number? place.precision
  let (argument, supply) ← supply.next?
  -- A negative width asks for the left, and a negative precision for none.
  let place := { place with leftAligned := place.leftAligned || width.any (· < 0) }
  return (← place.fill? (width.getD 0).natAbs (precision.map Int.toNat) argument, supply)

/-- Puts arguments into the places of a template, in order; none may be left over, except of a
dictionary. Every step takes a character of the template at least. -/
def fillWithin : (steps : Nat) → List Char → LogSupply → Option (List Char)
  | 0, _, _ => none
  | _ + 1, [], supply =>
    if supply.rest.isEmpty || supply.dictionary.isSome then some [] else none
  -- Two percent signs side by side make one and take no argument.
  | steps + 1, '%' :: '%' :: rest, supply => ('%' :: ·) <$> fillWithin steps rest supply
  | steps + 1, '%' :: rest, supply => do
    let (place, rest) ← Place.read rest
    let (shown, supply) ← fillPlace place supply
    return shown ++ (← fillWithin steps rest supply)
  | steps + 1, char :: rest, supply => (char :: ·) <$> fillWithin steps rest supply

/-- The supply that arguments make: a single dictionary with members stands for them all. -/
def LogSupply.ofArguments : List LogArgument → LogSupply
  -- A dictionary without members is an argument like any other.
  | [.dictionary (member :: members)] =>
    { rest := [.dictionary (member :: members)], dictionary := some (member :: members) }
  | arguments => { rest := arguments, dictionary := none }

/-- The message that a template and its arguments make; without arguments it is the template. -/
def logMessage? (template : String) (arguments : List LogArgument) : Option String :=
  if arguments.isEmpty then some template
  else String.ofList <$>
    fillWithin (template.length + 1) template.toList (LogSupply.ofArguments arguments)

end Unified2
