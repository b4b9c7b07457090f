/-! Texts in capitals, as far as the capitals are ASCII letters. -/

namespace Unified2.Text

/-- The characters beyond ASCII whose capitals are ASCII letters. -/
def foreignCapitals : List (Char × String) :=
  [('\u00df', "SS"), ('\u0131', "I"), ('\u017f', "S"), ('\ufb00', "FF"), ('\ufb01', "FI"),
   ('\ufb02', "FL"), ('\ufb03', "FFI"), ('\ufb04', "FFL"), ('\ufb05', "ST"), ('\ufb06', "ST")]

/-- The capitals of a character; one that has none in ASCII stays as it is. -/
def capital (char : Char) : List Char :=
  match foreignCapitals.lookup char with
  -- One character may have two letters or three as its capitals.
  | some letters => letters.toList
  | none => [char.toUpper]

/-- A text in capitals. -/
def capitals (text : String) : String := String.ofList (text.toList.flatMap capital)

end Unified2.Text
