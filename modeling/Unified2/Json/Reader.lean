import Unified2.Number.Text

/-! Reading JSON documents. -/

namespace Unified2

/-- A JSON document. -/
inductive JsonValue
  | null
  | bool (value : Bool)
  | integer (value : Int)
  | decimal (value : Binary64)
  | string (value : CodeText)
  | array (items : List JsonValue)
  | object (members : List (CodeText × JsonValue))

/-- Why a text is no JSON document. -/
inductive JsonError
  | malformed
  | number (error : NumberError)
  /-- Arrays or objects stand inside one another too deeply. -/
  | tooDeep (object : Bool)
  deriving DecidableEq, Repr

namespace Json

/-- How deeply arrays and objects may stand inside one another. A reader that calls itself for each
of them is limited by the stack of its process: of one thousand calls this is what is left when
twenty are under way already, and a process with fewer of them reads a little deeper. -/
def depthLimit : Nat := 980

/-- Leaves out the blanks that JSON knows. -/
def skipBlanks (chars : List Char) : List Char :=
  chars.dropWhile fun char => char == ' ' || char == '\t' || char == '\n' || char == '\r'

/-- The value of a hexadecimal digit. -/
def hexValue? (char : Char) : Option Nat :=
  if '0' ≤ char ∧ char ≤ '9' then some (char.toNat - '0'.toNat)
  else if 'a' ≤ char ∧ char ≤ 'f' then some (char.toNat - 'a'.toNat + 10)
  else if 'A' ≤ char ∧ char ≤ 'F' then some (char.toNat - 'A'.toNat + 10)
  else none

/-- The number that four hexadecimal digits write. -/
def hexUnit? (first second third fourth : Char) : Option Nat := do
  return (((← hexValue? first) * 16 + (← hexValue? second)) * 16 + (← hexValue? third)) * 16 +
    (← hexValue? fourth)

/-- The character that a letter after a backslash stands for. -/
def shortEscape? (letter : Char) : Option Char :=
  [('\x22', '\x22'), ('\\', '\\'), ('/', '/'), ('b', '\x08'), ('f', '\x0c'), ('n', '\n'),
   ('r', '\r'), ('t', '\t')].lookup letter

/-- Reads a string after its opening quote, as code points and numbers of sixteen bits, and gives
the characters after it; what was read so far is kept with the last one first. -/
def stringUnits : List Char → (read : List Nat) → Except JsonError (List Nat × List Char)
  | [], _ => .error .malformed
  | '\x22' :: rest, read => .ok (read.reverse, rest)
  -- Halves of a pair are joined later, so each stays a number for now.
  | '\\' :: 'u' :: first :: second :: third :: fourth :: rest, read =>
    match hexUnit? first second third fourth with
    | some unit => stringUnits rest (unit :: read)
    | none => .error .malformed
  | '\\' :: letter :: rest, read =>
    match shortEscape? letter with
    | some char => stringUnits rest (char.toNat :: read)
    | none => .error .malformed
  | char :: rest, read =>
    -- Control characters have to be escaped.
    if char.toNat < 0x20 ∨ char = '\\' then .error .malformed
    else stringUnits rest (char.toNat :: read)

/-- The code point of a number of its own. -/
def singlePoint (unit : Nat) : CodePoint :=
  if 0xd800 ≤ unit ∧ unit < 0xe000 then .half unit else .char (Char.ofNat unit)

/-- The text that code points and numbers of sixteen bits stand for: two halves that belong together
are one character. -/
def joinPairs : List Nat → CodeText
  | high :: low :: rest =>
    if 0xd800 ≤ high ∧ high < 0xdc00 ∧ 0xdc00 ≤ low ∧ low < 0xe000 then
      .char (Char.ofNat (0x10000 + (high - 0xd800) * 0x400 + (low - 0xdc00))) :: joinPairs rest
    -- The second number may still be the first half of another pair.
    else singlePoint high :: joinPairs (low :: rest)
  | [unit] => [singlePoint unit]
  | [] => []

/-- Reads a string after its opening quote. -/
def readString (chars : List Char) : Except JsonError (CodeText × List Char) := do
  let (units, rest) ← stringUnits chars []
  return (joinPairs units, rest)

/-- The digits in front, as long as they are a whole number without needless zeros. -/
def wholeDigits : List Char → List Char
  -- Digits behind a leading zero belong to no number.
  | '0' :: _ => ['0']
  | chars => chars.takeWhile Char.isDigit

/-- The point and the digits after it, if there are any. -/
def places : List Char → List Char
  | '.' :: rest =>
    let digits := rest.takeWhile Char.isDigit
    -- A point without digits behind it is left for whoever reads on.
    if digits.isEmpty then [] else '.' :: digits
  | _ => []

/-- The exponent with its letter, if it has digits. -/
def exponent : List Char → List Char
  | letter :: rest =>
    let sign := match rest with
      | '+' :: _ => ['+']
      | '-' :: _ => ['-']
      | _ => []
    let digits := (rest.drop sign.length).takeWhile Char.isDigit
    -- The same goes for a letter without digits behind it.
    if (letter == 'e' || letter == 'E') && !digits.isEmpty then letter :: sign ++ digits else []
  | [] => []

/-- Reads the longest number in front. -/
def readNumber (chars : List Char) : Except JsonError (JsonValue × List Char) :=
  let sign := match chars with
    | '-' :: _ => ['-']
    | _ => []
  let whole := wholeDigits (chars.drop sign.length)
  if whole.isEmpty then .error .malformed
  else
    let rest := chars.drop (sign.length + whole.length)
    let fraction := places rest
    let rest := rest.drop fraction.length
    let power := exponent rest
    let rest := rest.drop power.length
    let text := String.ofList (sign ++ whole ++ fraction ++ power)
    -- Without a point and an exponent the number is an integer, of any size.
    if fraction.isEmpty && power.isEmpty then
      match Integer.parse text with
      | .ok value => .ok (.integer value, rest)
      | .error error => .error (.number error)
    else
      match Decimal.parse text with
      | .ok value => .ok (.decimal value, rest)
      | .error error => .error (.number error)

/-- The words that are values. -/
def words : List (String × JsonValue) :=
  [("null", .null), ("true", .bool true), ("false", .bool false), ("NaN", .decimal .nan),
   ("Infinity", .decimal (.infinite false)), ("-Infinity", .decimal (.infinite true))]

/-- Reads a word or a number. -/
def readScalar (chars : List Char) : Except JsonError (JsonValue × List Char) :=
  -- Words come first, because one of them starts with the sign of a number.
  match words.find? fun (word, _) => word.toList.isPrefixOf chars with
  | some (word, value) => .ok (value, chars.drop word.length)
  | none => readNumber chars

mutual

/-- Reads the value in front, in at most the given number of steps. -/
def readValue : (steps depth : Nat) → List Char → Except JsonError (JsonValue × List Char)
  | 0, _, _ => .error .malformed
  | _ + 1, _, '\x22' :: rest => do
    let (text, rest) ← readString rest
    return (.string text, rest)
  | steps + 1, depth, '[' :: rest =>
    -- The depth is spent when a bracket opens, before anything in it is read.
    if depth = 0 then .error (.tooDeep false)
    else match skipBlanks rest with
      | ']' :: rest => .ok (.array [], rest)
      | rest => do
        let (items, rest) ← readItems steps (depth - 1) rest
        return (.array items, rest)
  | steps + 1, depth, '\x7b' :: rest =>
    if depth = 0 then .error (.tooDeep true)
    else match skipBlanks rest with
      | '\x7d' :: rest => .ok (.object [], rest)
      | rest => do
        let (members, rest) ← readMembers steps (depth - 1) rest
        return (.object members, rest)
  | _ + 1, _, chars => readScalar chars

/-- Reads the values of an array up to its closing bracket. -/
def readItems : (steps depth : Nat) → List Char → Except JsonError (List JsonValue × List Char)
  | 0, _, _ => .error .malformed
  | steps + 1, depth, chars => do
    let (item, rest) ← readValue steps depth chars
    match skipBlanks rest with
    | ']' :: rest => return ([item], rest)
    | ',' :: rest =>
      -- Behind a comma there has to be another value.
      let (items, rest) ← readItems steps depth (skipBlanks rest)
      return (item :: items, rest)
    | _ => throw .malformed

/-- Reads the members of an object up to its closing brace. -/
def readMembers : (steps depth : Nat) → List Char →
    Except JsonError (List (CodeText × JsonValue) × List Char)
  | 0, _, _ => .error .malformed
  | steps + 1, depth, '\x22' :: rest => do
    let (name, rest) ← readString rest
    match skipBlanks rest with
    | ':' :: rest =>
      let (value, rest) ← readValue steps depth (skipBlanks rest)
      match skipBlanks rest with
      | '\x7d' :: rest => return ([(name, value)], rest)
      | ',' :: rest =>
        let (members, rest) ← readMembers steps depth (skipBlanks rest)
        return ((name, value) :: members, rest)
      | _ => throw .malformed
    | _ => throw .malformed
  | _ + 1, _, _ => .error .malformed

end

/-- Reads a text that is one JSON document; two steps for every character are always enough. -/
def parse (text : String) : Except JsonError JsonValue := do
  let chars := text.toList
  let (value, rest) ← readValue (2 * chars.length + 2) depthLimit (skipBlanks chars)
  -- Only blanks may stand behind the document.
  if (skipBlanks rest).isEmpty then return value else throw .malformed

end Json

end Unified2
