import Synopsis.Text.Basic

namespace Synopsis

/-!
# Counting lines

* `LineTally` — the lines counted in content that arrives block by block.
-/

/-- The byte of a line feed. -/
def lineFeed : UInt8 := 0x0A

/-- The lines counted so far. -/
structure LineTally where
  /-- The number of line feeds. -/
  feeds : Nat
  /-- The last byte, if there was one. -/
  last : Option UInt8
  deriving Repr, DecidableEq

/-- Nothing has arrived. -/
def LineTally.empty : LineTally := ⟨0, none⟩

/-- The count once one more block has arrived. -/
def LineTally.feed (t : LineTally) (block : Bytes) : LineTally :=
  ⟨t.feeds + block.count lineFeed, block.getLast?.or t.last⟩

/-- The number of lines: what follows the last line feed is a line if anything does. -/
def LineTally.total (t : LineTally) : Nat :=
  if t.last.all (· = lineFeed) then t.feeds else t.feeds + 1

/-- The number of lines of content that arrives in blocks. -/
def countLines (blocks : List Bytes) : Nat := (blocks.foldl LineTally.feed .empty).total

end Synopsis
