import Synopsis.Outline.Kind

namespace Synopsis

/-!
# Captures

* `TaggedNode` — a node of a parsed source, with the tag under which it was found;
* `Capture` — the rows of a source that a node covers, with its kind;
* `captures` — the captures of a list of nodes.
-/

/-- A place in a source: a row, counted by line feeds from 0, and a column in bytes. -/
structure Position where
  /-- The number of line feeds before the place. -/
  row : Nat
  /-- The number of bytes between the row's start and the place. -/
  column : Nat
  deriving Repr, DecidableEq

/-- A node of a parsed source. -/
structure TaggedNode where
  /-- The name under which the node was captured. -/
  tag : Text
  /-- Where the node starts. -/
  start : Position
  /-- The first place after the node. -/
  stop : Position
  /-- Where the node's body starts, if it has one. -/
  body : Option Position
  deriving Repr, DecidableEq

/-- Rows of a source that contribute to its outline. -/
structure Capture where
  /-- The first row. -/
  startRow : Nat
  /-- The last row. -/
  endRow : Nat
  /-- What the rows contribute. -/
  kind : Kind
  /-- Where the body of the definition starts, if that is known. -/
  body : Option Position
  deriving Repr, DecidableEq

/-- The row of a node's last byte: a node that ends at the start of a later row ends with the
    line feed of the row before. -/
def TaggedNode.lastRow (n : TaggedNode) : Nat :=
  if n.stop.column = 0 ∧ n.start.row < n.stop.row then n.stop.row - 1 else n.stop.row

/-- The capture of a node. -/
def TaggedNode.capture (n : TaggedNode) : Capture where
  startRow := n.start.row
  endRow := n.lastRow
  kind := Kind.ofTag n.tag
  body := n.body

/-- The captures of the nodes that contribute to an outline, in the order of the nodes. -/
def captures (nodes : List TaggedNode) : List Capture :=
  (nodes.map TaggedNode.capture).filter (·.kind ≠ .irrelevant)

end Synopsis
