import Synopsis.Text.CodeRange

namespace Synopsis

/-!
# White space

The white space of Unicode: 25 characters.  Zero-width space (U+200B), the byte order mark
(U+FEFF) and the Mongolian vowel separator (U+180E) are not among them.

* `isBlank` — the property;
* `trimStart`, `trimEnd`, `trim` — text without white space at an end.
-/

/-- The code points with the property White_Space. -/
def blankRanges : List CodeRange :=
  [⟨0x0009, 0x000D⟩, ⟨0x0020, 0x0020⟩, ⟨0x0085, 0x0085⟩, ⟨0x00A0, 0x00A0⟩, ⟨0x1680, 0x1680⟩,
   ⟨0x2000, 0x200A⟩, ⟨0x2028, 0x2029⟩, ⟨0x202F, 0x202F⟩, ⟨0x205F, 0x205F⟩, ⟨0x3000, 0x3000⟩]

/-- Whether the character is white space. -/
def isBlank (c : Char) : Bool := isWithin blankRanges c

/-- The text without leading white space. -/
def trimStart (s : Text) : Text := s.dropWhile isBlank

/-- The text without trailing white space. -/
def trimEnd (s : Text) : Text := (s.reverse.dropWhile isBlank).reverse

/-- The text without white space at either end. -/
def trim (s : Text) : Text := trimEnd (trimStart s)

/-- White space of the ASCII set is white space here. -/
theorem isBlank_of_isWhitespace {c : Char} (h : c.isWhitespace = true) : isBlank c = true := by
  simp only [Char.isWhitespace, Bool.or_eq_true, decide_eq_true_eq] at h
  rcases h with ((rfl | rfl) | rfl) | rfl <;> decide

end Synopsis
