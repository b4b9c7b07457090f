/-! The order of texts by their code points. -/

namespace Unified2.Text

/-- Whether characters come before others, the first difference deciding and a beginning first. -/
def charsPrecede : List Char → List Char → Bool
  | _, [] => false
  | [], _ :: _ => true
  | left :: lefts, right :: rights =>
    -- The first difference decides, and the lengths count only without one.
    left.toNat < right.toNat || (left == right && charsPrecede lefts rights)

/-- Whether a text comes before another. -/
def precedes (left right : String) : Bool := charsPrecede left.toList right.toList

/-- Texts in their order. -/
def sorted (texts : List String) : List String :=
  texts.mergeSort fun left right => !precedes right left

end Unified2.Text
