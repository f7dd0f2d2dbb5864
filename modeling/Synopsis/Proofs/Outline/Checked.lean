import Synopsis.Json.Basic
import Synopsis.Outline.Assembler

namespace Synopsis

/-!
# Outlines with every access checked

An outline is computed here once more, and every step that has a precondition is checked: a row
that is read, rows that are copied, a row that is cut at a byte, a number that is moved between
two bounds, a sum and a difference that have to fit into a machine word.

* `Breach` — a precondition that is not met;
* `Checked` — a computation that stops at the first breach;
* `checkedVerbatim`, `checkedClassHeader`, `checkedSignature` — the texts of captures;
* `Assembler.checkedPush`, `Assembler.checkedRun` — pushes, one and several;
* `checkedOutline` — the outline of a source;
* `checkedCaptures` — the captures of nodes.
-/

/-- A precondition that is not met. -/
inductive Breach where
  /-- The row does not exist. -/
  | row (i : Nat)
  /-- The rows stand in the wrong order, or the last one does not exist. -/
  | rows (first last : Nat)
  /-- The row has fewer bytes, or a character straddles the end of them. -/
  | cut (offset : Nat)
  /-- The bounds stand in the wrong order. -/
  | clamp (low high : Nat)
  /-- The result is not a machine word. -/
  | word
  deriving Repr, DecidableEq

/-- A computation that stops at the first breach. -/
abbrev Checked := Except Breach

/-! ### Steps with a precondition -/

/-- The sum of two machine words. -/
def checkedAdd (a b : Nat) : Checked Nat := if a + b < wordLimit then pure (a + b) else throw .word

/-- The difference of two machine words. -/
def checkedSub (a b : Nat) : Checked Nat := if b ≤ a then pure (a - b) else throw .word

/-- The number moved between the bounds. -/
def checkedClamp (x low high : Nat) : Checked Nat :=
  if low ≤ high then pure (max low (min x high)) else throw (.clamp low high)

/-- A row of the source. -/
def checkedRow (source : List Text) (i : Nat) : Checked Text :=
  match source[i]? with
  | some row => pure row
  | none => throw (.row i)

/-- The rows from `first` to `last`. -/
def checkedRows (source : List Text) (first last : Nat) : Checked (List Text) :=
  if first ≤ last ∧ last < source.length then pure (rowsIn source first last)
  else throw (.rows first last)

/-- The first bytes of a row. -/
def checkedCut (row : Text) (offset : Nat) : Checked Text :=
  match bytePrefix? row offset with
  | some head => pure head
  | none => throw (.cut offset)

/-! ### Texts of captures -/

/-- The byte at which the first occurrence of `marker` starts. -/
def byteIndex? (marker : Text) : Text → Option Nat
  | [] => if marker = [] then some 0 else none
  | c :: r =>
    if marker.isPrefixOf (c :: r) then some 0
    else (byteIndex? marker r).map (c.utf8Size + ·)

/-- What stands before the first occurrence of `marker`; the whole row if there is none. -/
def checkedUpTo (marker row : Text) : Checked Text :=
  match byteIndex? marker row with
  | some offset => checkedCut row offset
  | none => pure row

/-- The rows of a span in full. -/
def checkedVerbatim (source : List Text) (startRow endRow : Nat) : Checked Text := do
  let rows ← checkedRows source startRow (lastRow source startRow endRow)
  pure (trim (joinRows rows))

/-- The header of a class. -/
def checkedClassHeader (source : List Text) (startRow endRow : Nat) : Checked Text := do
  let first ← checkedRow source startRow
  let second? ← if startRow < endRow then do
      let next ← checkedAdd startRow 1
      pure (source[next]?.filter inherits)
    else pure none
  let parts ← (first :: second?.toList).mapM fun row => do
    let head ← checkedUpTo ['\x7b'] row
    pure (trim head)
  pure (trim (joinRows parts))

/-- The last row that may belong to a header. -/
def checkedLimit (source : List Text) (startRow endRow : Nat) (body : Option Position) :
    Checked Nat :=
  let last := lastRow source startRow endRow
  match body with
  | some b => checkedClamp b.row startRow last
  | none => pure last

/-- The number and the terminator of the first row that closes a header, among the rows from
    `first` on and before `stop`. -/
def closingNumber? (source : List Text) (first stop : Nat) : Option (Nat × Terminator) :=
  ((source.zipIdx.take stop).drop first).findSome? fun (row, i) => (terminator? row).map (i, ·)

/-- The rows with the last one cut at `marker`. -/
def checkedCutLast (marker : Text) (rows : List Text) : Checked (List Text) :=
  match rows.getLast? with
  | none => pure []
  | some row => do
    let head ← checkedUpTo marker row
    pure (rows.dropLast ++ [trimEnd head])

/-- The rows of a header whose last possible row is known. -/
def checkedHeaderRows (source : List Text) (startRow limit : Nat) (body : Option Position) :
    Checked (List Text) := do
  let stop ← checkedAdd limit 1
  match closingNumber? source startRow stop with
  | some (closing, t) => do
    let rows ← checkedRows source startRow closing
    if t.opensBody then checkedCutLast t.mark rows else pure rows
  | none => do
    let rows ← checkedRows source startRow limit
    -- A body that starts elsewhere was moved into the span, and cuts nothing.
    match body.filter (·.row = limit) with
    | some b => pure (cutLastRow rows b.column)
    | none => pure rows

/-- The header of a span. -/
def checkedSignature (source : List Text) (startRow endRow : Nat) (body : Option Position) :
    Checked Text := do
  let limit ← checkedLimit source startRow endRow body
  let rows ← checkedHeaderRows source startRow limit body
  pure (trim (joinRows rows))

/-- What the rows of a capture contribute to an outline. -/
def Capture.checkedText (c : Capture) (source : List Text) : Checked Text :=
  match c.kind with
  | .comment | .typeDefinition | .importClause | .property =>
    checkedVerbatim source c.startRow c.endRow
  | .classDefinition => checkedClassHeader source c.startRow c.endRow
  | .signature => checkedSignature source c.startRow c.endRow c.body
  | .irrelevant => pure []

/-- The chunk of a capture.  The rows of a capture outside the source are not read. -/
def Capture.checkedChunk (c : Capture) (source : List Text) : Checked (Option Text) :=
  if c.isIn source then do
    let text ← c.checkedText source
    pure (some text |>.filter (· ≠ []))
  else pure none

/-! ### Pushes -/

/-- What becomes of a capture that has this chunk and is pushed now. -/
def Assembler.verdict (a : Assembler) (c : Capture) : Option Text → Verdict
  | none => .skipped
  | some chunk => if c.kind.isStructural && a.keys.has chunk then .repeated else .kept chunk

/-- The push of a capture. -/
def Assembler.checkedPush (a : Assembler) (source : List Text) (c : Capture) : Checked Step := do
  let chunk? ← c.checkedChunk source
  let verdict := a.verdict c chunk?
  pure ⟨c, verdict, a.settle c verdict⟩

/-- The pushes of several captures in order, with the outline in the making after them. -/
def Assembler.checkedRun (a : Assembler) (source : List Text) :
    List Capture → Checked (Assembler × List Step)
  | [] => pure (a, [])
  | c :: rest => do
    let step ← a.checkedPush source c
    let (last, steps) ← step.after.checkedRun source rest
    pure (last, step :: steps)

/-- The outline of a source, made of its captures. -/
def checkedOutline (source : List Text) (cs : List Capture) : Checked (Logged Text) := do
  let (last, steps) ← Assembler.empty.checkedRun source (byStartRow cs)
  pure ⟨last.outline, steps.flatMap (·.log)⟩

/-! ### Captures of nodes -/

/-- The capture of a node. -/
def TaggedNode.checkedCapture (n : TaggedNode) : Checked Capture := do
  let endRow ← if n.stop.column = 0 ∧ n.start.row < n.stop.row then checkedSub n.stop.row 1
    else pure n.stop.row
  pure ⟨n.start.row, endRow, Kind.ofTag n.tag, n.body⟩

/-- The captures of the nodes that contribute to an outline, in the order of the nodes. -/
def checkedCaptures (nodes : List TaggedNode) : Checked (List Capture) :=
  (nodes.filter fun n => Kind.ofTag n.tag ≠ .irrelevant).mapM TaggedNode.checkedCapture

end Synopsis
