import Synopsis.Error
import Synopsis.Outline.Kind

namespace Synopsis

/-!
# Journal

* `Record` — an event that is worth a line in a log;
* `Record.line` — that line;
* `sortedLines` — the lines of a log in alphabetical order;
* `Logged` — a value with the records that were made on the way to it.
-/

/-- An event that is worth a line in a log. -/
inductive Record where
  /-- A capture was left out since its text stands in the outline already. -/
  | repeated (kind : Kind) (startRow : Nat)
  /-- A source was outlined. -/
  | outlined (path : Path) (language : Language) (sourceLines outlineLines : Nat)
  /-- A file of a batch was not outlined. -/
  | failed (path : Path) (error : Error)
  deriving Repr, DecidableEq

/-- The line of a record, its level first. -/
def Record.line : Record → Text
  | .repeated kind row =>
    "DEBUG Skipping duplicate ".toList ++ kind.label ++ " chunk at row ".toList ++ decimal row
  | .outlined path l sourceLines outlineLines =>
    "DEBUG Outlined ".toList ++ path.display ++ " (".toList ++ l.name ++ "): ".toList
      ++ decimal sourceLines ++ " lines -> ".toList ++ decimal outlineLines ++ " lines".toList
  | .failed path error =>
    "ERROR Failed to outline ".toList ++ path.display ++ ": ".toList ++ error.message

/-- The lines of a log in alphabetical order, for logs whose order depends on chance. -/
def sortedLines (log : List Record) : List Text := (log.map Record.line).mergeSort textLe

/-- A value with the records that were made on the way to it, oldest first. -/
structure Logged (α : Type) where
  /-- The value. -/
  value : α
  /-- The records. -/
  log : List Record
  deriving Repr, DecidableEq

end Synopsis
