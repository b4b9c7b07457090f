import Unified2.Text.Quoted

/-! Texts as JSON strings of visible ASCII characters. -/

namespace Unified2.Json

/-- The two-character escapes: a character and the letter that stands for it. -/
def shortEscapes : List (Char × Char) :=
  [('\x22', '\x22'), ('\\', '\\'), ('\x08', 'b'), ('\x0c', 'f'), ('\n', 'n'), ('\r', 'r'),
   ('\t', 't')]

/-- The escape of a number of sixteen bits. -/
def unitEscape (unit : Nat) : List Char := '\\' :: 'u' :: Text.hexDigits 4 unit

/-- The numbers of sixteen bits that stand for a character, two of them beyond the first plane. -/
def units (char : Char) : List Nat :=
  -- Beyond the first plane a character is written as the two halves of a pair.
  if char.toNat < 0x10000 then [char.toNat]
  else
    let beyond := char.toNat - 0x10000
    [0xd800 + beyond / 0x400, 0xdc00 + beyond % 0x400]

/-- A character inside a JSON string. -/
def escapedChar (char : Char) : List Char :=
  match shortEscapes.lookup char with
  | some letter => ['\\', letter]
  | none =>
    -- All that is not plain is written by its numbers, so a line is ASCII throughout.
    if 0x20 ≤ char.toNat ∧ char.toNat < 0x7f then [char]
    else (units char).flatMap unitEscape

/-- A text as a JSON string. -/
def string (text : String) : List Char :=
  '\x22' :: text.toList.flatMap escapedChar ++ ['\x22']

/-- Named texts as a JSON object on one line. -/
def line (members : List (String × String)) : String :=
  String.ofList ('\x7b' ::
    List.intercalate [',', ' '] (members.map fun (name, value) =>
      string name ++ [':', ' '] ++ string value) ++ ['\x7d'])

end Unified2.Json
