/-
Tables of code points: properties of characters are given as ranges in increasing order.
-/

namespace TemplateEngines.Text

/-- Whether a code point lies in one of the ranges, which are in increasing order. -/
def inRanges (n : Nat) : List (Nat × Nat) → Bool
  | [] => false
  | (low, high) :: rest => if n < low then false else n ≤ high || inRanges n rest

end TemplateEngines.Text
