namespace Synopsis

/-!
# Text and bytes

* `Text` — characters in order, the form in which sources, names and messages are handled;
* `Bytes` — octets in order, the form in which paths and file contents are stored;
* `joinRows` — rows put one below the other;
* `textLe` — the order of texts by code points;
* `decimal` — the digits of a number.
-/

/-- Text is the list of its characters. -/
abbrev Text := List Char

/-- Raw content is the list of its octets. -/
abbrev Bytes := List UInt8

/-- The rows one below the other, a line feed between each two. -/
def joinRows (rows : List Text) : Text := ['\n'].intercalate rows

/-- The first row stands above the others. -/
theorem joinRows_cons {rest : List Text} (h : rest ≠ []) (first : Text) :
    joinRows (first :: rest) = first ++ ['\n'] ++ joinRows rest := by
  obtain ⟨next, rest, rfl⟩ := List.exists_cons_of_ne_nil h
  rw [joinRows, List.intercalate_cons_cons]
  rfl

/-- The last row stands below the others. -/
theorem joinRows_concat {rows : List Text} (h : rows ≠ []) (row : Text) :
    joinRows (rows ++ [row]) = joinRows rows ++ ['\n'] ++ row := by
  induction rows with
  | nil => exact absurd rfl h
  | cons first rest ih =>
    by_cases hrest : rest = []
    · subst hrest
      simp [joinRows]
    · rw [List.cons_append, joinRows_cons (by simp), joinRows_cons hrest, ih hrest]
      simp only [List.append_assoc]

/-- Whether the first text comes before the second one or equals it, by code points. -/
def textLe (a b : Text) : Bool := !decide (b < a)

/-- The decimal digits of a number, most significant first. -/
def decimal (n : Nat) : Text := Nat.toDigits 10 n

/-- Decimal digits denote the number they were written for. -/
theorem ofDigitChars_decimal (n : Nat) : Nat.ofDigitChars 10 (decimal n) 0 = n :=
  Nat.ofDigitChars_ten_toDigits

end Synopsis
