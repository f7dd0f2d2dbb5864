import Synopsis.Text.Blank

namespace Synopsis

/-!
# Spans of rows

* `lastRow` — the last row of a span that exists;
* `rowsIn` — the rows of a span;
* `verbatim` — a span in full.
-/

/-- The last row of a span that exists in the source; the first row if none does. -/
def lastRow (source : List Text) (startRow endRow : Nat) : Nat :=
  max (min endRow (source.length - 1)) startRow

theorem le_lastRow (source : List Text) (startRow endRow : Nat) :
    startRow ≤ lastRow source startRow endRow :=
  Nat.le_max_right _ _

theorem lastRow_lt {source : List Text} {startRow : Nat} (h : startRow < source.length)
    (endRow : Nat) : lastRow source startRow endRow < source.length := by
  rw [lastRow]
  omega

/-- The rows from `first` to `last`, as far as they exist. -/
def rowsIn (source : List Text) (first last : Nat) : List Text :=
  (source.drop first).take (last + 1 - first)

theorem getElem?_rowsIn (source : List Text) (first last i : Nat) :
    (rowsIn source first last)[i]? = if first + i ≤ last then source[first + i]? else none := by
  rw [rowsIn, List.getElem?_take, List.getElem?_drop]
  by_cases h : first + i ≤ last
  · rw [if_pos h, if_pos (by omega)]
  · rw [if_neg h, if_neg (by omega)]

/-- The span of a single row. -/
theorem rowsIn_self (source : List Text) (i : Nat) : rowsIn source i i = source[i]?.toList := by
  rw [rowsIn, Nat.add_sub_cancel_left, List.take_one, List.head?_drop]

/-- The rows of a span in full, without white space at either end. -/
def verbatim (source : List Text) (startRow endRow : Nat) : Text :=
  trim (joinRows (rowsIn source startRow (lastRow source startRow endRow)))

end Synopsis
