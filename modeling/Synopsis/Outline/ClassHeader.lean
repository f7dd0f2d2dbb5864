import Synopsis.Outline.Span
import Synopsis.Text.Search
import Synopsis.Text.Word

namespace Synopsis

/-!
# Class headers

* `inherits` — whether a row names what a class extends or implements;
* `classHeader` — the declaration row of a class, with an inheritance row right below it.
-/

/-- Whether the row holds one of the words `extends` and `implements`. -/
def inherits (row : Text) : Bool :=
  hasWord "extends".toList (trim row) || hasWord "implements".toList (trim row)

/-- A row before its first opening brace, without white space at either end. -/
def beforeBrace (row : Text) : Text := trim (upTo ['\x7b'] row)

/-- The rows of a class header: the first row of the span, and the second if it is part of the
    span and names what the class inherits from. -/
def classRows (source : List Text) (startRow endRow : Nat) : List Text :=
  rowsIn source startRow startRow ++
    if startRow < endRow then (rowsIn source (startRow + 1) (startRow + 1)).filter inherits else []

/-- The header of a class, each of its rows up to the first opening brace. -/
def classHeader (source : List Text) (startRow endRow : Nat) : Text :=
  trim (joinRows ((classRows source startRow endRow).map beforeBrace))

end Synopsis
