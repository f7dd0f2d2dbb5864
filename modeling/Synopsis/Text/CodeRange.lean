import Synopsis.Text.Basic

namespace Synopsis

/-!
# Ranges of code points

Properties of characters are given as lists of ranges, in ascending order.

* `CodeRange` — the code points between two bounds, both included;
* `isWithin` — whether a character is in one of several ranges.
-/

/-- The code points from `first` to `last`. -/
structure CodeRange where
  /-- The least code point of the range. -/
  first : Nat
  /-- The greatest code point of the range. -/
  last : Nat
  deriving Repr, DecidableEq

/-- Whether the code point lies in the range. -/
def CodeRange.has (r : CodeRange) (n : Nat) : Bool := r.first ≤ n && n ≤ r.last

/-- Whether the character is in one of the ranges. -/
def isWithin (ranges : List CodeRange) (c : Char) : Bool := ranges.any (·.has c.toNat)

/-- A character is within ranges exactly if one of them encloses its code point. -/
theorem isWithin_iff {ranges : List CodeRange} {c : Char} :
    isWithin ranges c = true ↔ ∃ r ∈ ranges, r.first ≤ c.toNat ∧ c.toNat ≤ r.last := by
  simp [isWithin, CodeRange.has]

end Synopsis
