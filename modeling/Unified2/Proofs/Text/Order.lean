import Mathlib.Data.String.Basic
import Unified2.Text.Order

/-! Texts in their order are the same texts, and those of them that differ stand in strict order. -/

namespace Unified2.Text

/-- Characters come before others as lists do. -/
theorem charsPrecede_iff {left right : List Char} :
    charsPrecede left right = true ↔ left < right := by
  -- The first characters decide, or the rest if they are the same.
  induction left generalizing right with
  | nil => cases right <;> simp [charsPrecede]
  | cons first rest ih =>
    cases right with
    | nil => simp [charsPrecede]
    | cons other others =>
      simp only [charsPrecede, Bool.or_eq_true, Bool.and_eq_true, decide_eq_true_eq, beq_iff_eq, ih,
        List.cons_lt_cons_iff]
      exact Iff.rfl

/-- The order of texts is the one of their characters. -/
theorem precedes_iff {left right : String} : precedes left right = true ↔ left < right :=
  charsPrecede_iff.trans String.lt_iff_toList_lt.symm

/-- Sorting keeps the texts. -/
theorem sorted_perm (texts : List String) : (sorted texts).Perm texts :=
  List.mergeSort_perm texts _

/-- Texts are sorted from the first to the last. -/
theorem pairwise_sorted (texts : List String) : (sorted texts).Pairwise (· ≤ ·) := by
  -- A text stands before another unless that one precedes it.
  have inOrder (left right : String) : (!precedes right left) = true ↔ left ≤ right := by
    rw [Bool.not_eq_true', ← Bool.not_eq_true, precedes_iff, not_lt]
  have pairwise : (sorted texts).Pairwise fun left right => (!precedes right left) = true := by
    apply List.pairwise_mergeSort
    · intro first second third
      simpa only [inOrder] using le_trans
    · intro first second
      simpa only [inOrder, Bool.or_eq_true] using le_total first second
  simpa only [inOrder] using pairwise

/-- Sorting gives the same for the same texts, whichever order they come in. -/
theorem sorted_congr {left right : List String} (perm : left.Perm right) :
    sorted left = sorted right :=
  (((sorted_perm left).trans perm).trans (sorted_perm right).symm).eq_of_pairwise
    (fun _ _ _ _ => le_antisymm) (pairwise_sorted left) (pairwise_sorted right)

/-- Texts that all differ are in strict order once they are sorted. -/
theorem sorted_pairwise_lt {texts : List String} (differ : texts.Nodup) :
    (sorted texts).Pairwise (· < ·) := by
  -- In order and never the same is strictly in order.
  have apart : (sorted texts).Nodup := (sorted_perm texts).nodup_iff.mpr differ
  exact ((pairwise_sorted texts).and apart).imp fun ⟨before, other⟩ => lt_of_le_of_ne before other

end Unified2.Text
