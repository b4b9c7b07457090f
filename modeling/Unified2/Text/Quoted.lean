import Unified2.Bytes
import Unified2.Text.CodeText
import Unified2.Text.Printable

/-! Texts and byte strings in quotes, on one line, as messages show them. -/

namespace Unified2.Text

/-- The low hexadecimal digits of a number, the most significant first. -/
def hexDigits : (width value : Nat) → List Char
  | 0, _ => []
  | width + 1, value => hexDigits width (value / 16) ++ [hexDigit (value % 16)]

/-- The quote around a text: a double one only if the text has single quotes and no double ones. -/
def quoteMark (chars : List Char) : Char :=
  if chars.contains '\x27' && !chars.contains '\x22' then '\x22' else '\x27'

/-- The two-character escapes of quoted texts. -/
def shortEscape? (char : Char) : Option Char :=
  if char = '\n' then some 'n'
  else if char = '\r' then some 'r'
  else if char = '\t' then some 't'
  else none

/-- A character by its code point, in as few digits as its plane needs. -/
def codeEscape (char : Char) : List Char :=
  if char.toNat < 0x100 then '\\' :: 'x' :: hexDigits 2 char.toNat
  else if char.toNat < 0x10000 then '\\' :: 'u' :: hexDigits 4 char.toNat
  else '\\' :: 'U' :: hexDigits 8 char.toNat

/-- A character inside quotes: hidden ones are written by their code point. -/
def quotedChar (mark char : Char) : List Char :=
  -- The other kind of quote needs no escape, which is why the mark is chosen first.
  if char = mark ∨ char = '\\' then ['\\', char]
  else match shortEscape? char with
    | some short => ['\\', short]
    | none => if isPrintable char then [char] else codeEscape char

/-- A text in quotes. -/
def quoted (text : String) : String :=
  let mark := quoteMark text.toList
  String.ofList (mark :: text.toList.flatMap (quotedChar mark) ++ [mark])

/-- A text in ASCII characters only: all others are written by their code point. -/
def inAscii (text : String) : String :=
  String.ofList (text.toList.flatMap fun char =>
    if char.toNat < 0x80 then [char] else codeEscape char)

/-- A code point inside quotes. -/
def quotedPoint (mark : Char) : CodePoint → List Char
  | .char value => quotedChar mark value
  -- Half of a pair has no other spelling than its number.
  | .half unit => '\\' :: 'u' :: hexDigits 4 unit

/-- A text of code points in quotes. -/
def quotedPoints (text : CodeText) : String :=
  let mark := quoteMark (text.filterMap CodePoint.char?)
  String.ofList (mark :: text.flatMap (quotedPoint mark) ++ [mark])

/-- A byte inside quotes: only the visible ASCII characters are shown. -/
def quotedByte (mark : Char) (byte : UInt8) : List Char :=
  if byte.toNat < 0x7f then quotedChar mark (Char.ofNat byte.toNat)
  else '\\' :: 'x' :: hexDigits 2 byte.toNat

/-- A byte string in quotes, after the letter that marks it. -/
def quotedBytes (bytes : Bytes) : String :=
  let mark := quoteMark (bytes.map fun byte => Char.ofNat byte.toNat)
  String.ofList ('b' :: mark :: bytes.flatMap (quotedByte mark) ++ [mark])

end Unified2.Text
