import Synopsis.Outline.Capture
import Synopsis.Outline.Span
import Synopsis.Text.Column
import Synopsis.Text.Search

namespace Synopsis

/-!
# Signatures

The header of a function or method ends on the first row that holds a closing parenthesis and
ends in a terminator.

* `Terminator` — how the last row of a header ends;
* `closingRow?` — the first row that closes a header;
* `signature` — a span without the body of what it defines.
-/

/-- How the last row of a header ends. -/
inductive Terminator where
  /-- A body in braces opens. -/
  | brace
  /-- The body of an arrow function follows. -/
  | doubleArrow
  /-- A result type or a body follows. -/
  | arrow
  /-- An indented body follows. -/
  | colon
  /-- There is no body. -/
  | semicolon
  deriving Repr, DecidableEq

/-- The characters that make the terminator. -/
def Terminator.mark : Terminator → Text
  | .brace => ['\x7b']
  | .doubleArrow => ['=', '>']
  | .arrow => ['-', '>']
  | .colon => [':']
  | .semicolon => [';']

/-- Whether the terminator opens what comes after the header.  The others are the natural end of
    a header and stay in it. -/
def Terminator.opensBody : Terminator → Bool
  | .brace | .doubleArrow | .arrow => true
  | .colon | .semicolon => false

/-- All terminators.  No two of them can end the same row. -/
def Terminator.all : List Terminator := [.brace, .doubleArrow, .arrow, .colon, .semicolon]

/-- The terminator that a row ends in, white space aside, if the row can close a header. -/
def terminator? (row : Text) : Option Terminator :=
  let text := trim row
  if ')' ∈ text then Terminator.all.find? fun t => endsWith t.mark text else none

/-- The first row that closes a header: the rows before it, the row and its terminator. -/
def closingRow? : List Text → Option (List Text × Text × Terminator)
  | [] => none
  | row :: rest =>
    match terminator? row with
    | some t => some ([], row, t)
    | none => (closingRow? rest).map fun (before, closing, t) => (row :: before, closing, t)

/-- The rows with the last one cut at a column, where a body opens on it.  A column that is not
    between two characters of the row cuts nothing off.  A row of which only white space is left
    is dropped, unless it is the only one. -/
def cutLastRow (rows : List Text) (column : Nat) : List Text :=
  match rows.getLast? with
  | none => []
  | some row =>
    let head := trimEnd ((bytePrefix? row column).getD row)
    if trim head = [] ∧ rows.dropLast ≠ [] then rows.dropLast else rows.dropLast ++ [head]

/-- The rows of a header within the rows that may hold it.  `column?` is where a body opens on
    the last of them, if one does. -/
def headerRows (rows : List Text) (column? : Option Nat) : List Text :=
  match closingRow? rows with
  | some (before, row, t) =>
    before ++ [if t.opensBody then trimEnd (upTo t.mark row) else row]
  | none =>
    match column? with
    | some column => cutLastRow rows column
    | none => rows

/-- The last row that may belong to a header: the row of a known body, moved into the span, or
    the span's last row. -/
def headerLimit (source : List Text) (startRow endRow : Nat) (body : Option Position) : Nat :=
  let last := lastRow source startRow endRow
  match body with
  | some b => max startRow (min b.row last)
  | none => last

theorem headerLimit_lt {source : List Text} {startRow : Nat} (h : startRow < source.length)
    (endRow : Nat) (body : Option Position) :
    headerLimit source startRow endRow body < source.length := by
  have hlast := lastRow_lt h endRow
  cases body with
  | none => exact hlast
  | some b =>
    simp only [headerLimit]
    omega

theorem le_headerLimit (source : List Text) (startRow endRow : Nat) (body : Option Position) :
    startRow ≤ headerLimit source startRow endRow body := by
  cases body with
  | none => exact le_lastRow source startRow endRow
  | some b => exact Nat.le_max_left _ _

/-- The header of a span, without the body of what it defines. -/
def signature (source : List Text) (startRow endRow : Nat) (body : Option Position) : Text :=
  let limit := headerLimit source startRow endRow body
  let column? := (body.filter (·.row = limit)).map (·.column)
  trim (joinRows (headerRows (rowsIn source startRow limit) column?))

end Synopsis
