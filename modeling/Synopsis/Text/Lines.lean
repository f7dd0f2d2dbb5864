import Synopsis.Text.Basic

namespace Synopsis

/-!
# Lines

A line ends at a line feed; a carriage return right before that line feed belongs to the line
ending.  What follows the last line feed is a line only if it is not empty, and it keeps a
carriage return at its end.

* `dropReturn` — a line without the carriage return of its ending;
* `lines` — the lines of a text.
-/

/-- The line without one carriage return at its end. -/
def dropReturn (line : Text) : Text :=
  if line.getLast? = some '\r' then line.dropLast else line

/-- What follows the last line feed, as a line unless it is empty. -/
def openLine (pieces : List Text) : List Text :=
  pieces.getLast?.toList.filter (!·.isEmpty)

/-- The lines of a text.  Of the pieces between line feeds, all but the last were ended by one. -/
def lines (s : Text) : List Text :=
  let pieces := s.splitOn '\n'
  pieces.dropLast.map dropReturn ++ openLine pieces

end Synopsis
