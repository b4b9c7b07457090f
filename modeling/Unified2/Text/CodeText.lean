/-! Texts as JSON escapes can write them, in which half of a surrogate pair may stand alone. -/

namespace Unified2

/-- A code point: a character, or half of a surrogate pair without the other half. -/
inductive CodePoint
  | char (value : Char)
  | half (unit : Nat)
  deriving DecidableEq, Repr

/-- The character of a code point, if it has one. -/
def CodePoint.char? : CodePoint → Option Char
  | char value => some value
  | half _ => none

/-- The character of a code point; half of a pair is shown as the replacement character. -/
def CodePoint.shown (point : CodePoint) : Char := point.char?.getD '\ufffd'

/-- A text of code points. -/
abbrev CodeText := List CodePoint

namespace CodeText

/-- A text of characters only. -/
def ofString (text : String) : CodeText := text.toList.map CodePoint.char

/-- The text with the replacement character for everything that is no character. -/
def shown (text : CodeText) : String := String.ofList (text.map CodePoint.shown)

/-- The parts between the places where a character stands. -/
def splitAt (mark : Char) : CodeText → List CodeText
  | [] => [[]]
  | point :: rest =>
    match splitAt mark rest with
    -- This does not come up, since there is always a part behind the last mark.
    | [] => [[point]]
    | part :: parts => if point = .char mark then [] :: part :: parts else (point :: part) :: parts

end CodeText

end Unified2
