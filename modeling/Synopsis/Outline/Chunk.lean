import Synopsis.Outline.ClassHeader
import Synopsis.Outline.Signature

namespace Synopsis

/-!
# Chunks

* `Capture.text` — what the rows of a capture contribute;
* `Capture.chunk?` — that text, if the capture lies in the source and the text is not empty.
-/

/-- Whether the capture starts in the source and does not end before it starts. -/
def Capture.isIn (c : Capture) (source : List Text) : Bool :=
  c.startRow < source.length && c.startRow ≤ c.endRow

theorem Capture.isIn_iff {c : Capture} {source : List Text} :
    c.isIn source = true ↔ c.startRow < source.length ∧ c.startRow ≤ c.endRow := by
  simp [isIn]

/-- What the rows of a capture contribute to an outline, according to its kind. -/
def Capture.text (c : Capture) (source : List Text) : Text :=
  match c.kind with
  | .comment | .typeDefinition | .importClause | .property =>
    verbatim source c.startRow c.endRow
  | .classDefinition => classHeader source c.startRow c.endRow
  | .signature => signature source c.startRow c.endRow c.body
  | .irrelevant => []

/-- The chunk of a capture; none if the capture does not lie in the source or contributes
    nothing. -/
def Capture.chunk? (c : Capture) (source : List Text) : Option Text :=
  if c.isIn source then some (c.text source) |>.filter (· ≠ []) else none

/-- A capture has a chunk exactly if it lies in the source and contributes text. -/
theorem Capture.chunk?_eq_some_iff {c : Capture} {source : List Text} {t : Text} :
    c.chunk? source = some t ↔ c.isIn source = true ∧ c.text source = t ∧ t ≠ [] := by
  rw [chunk?]
  split
  · rename_i hin
    simp only [Option.filter_eq_some_iff, Option.some.injEq, decide_eq_true_eq, hin, true_and]
  · rename_i hin
    simp [hin]

end Synopsis
