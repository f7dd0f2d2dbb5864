import Synopsis.Text.Utf8

namespace Synopsis

/-!
# Paths

A path is a sequence of bytes in which slashes separate names.

* `Path.components` — the names, without the empty ones and those that mean the same directory;
* `Path.fileName?` — the name of the file that a path leads to;
* `Path.extension?` — what follows the last dot of that name;
* `Path.display` — the path as text.
-/

/-- A path is the list of its bytes. -/
abbrev Path := Bytes

/-- The byte that separates the names of a path. -/
def slash : UInt8 := 0x2F

/-- The byte that separates a name from its extension. -/
def dot : UInt8 := 0x2E

/-- The name that means the directory itself. -/
def here : Bytes := [dot]

/-- The name that means the directory above. -/
def above : Bytes := [dot, dot]

/-- The names on a path, with `..` and without `.` and empty names. -/
def Path.components (p : Path) : List Bytes :=
  (p.splitOn slash).filter fun name => name ≠ [] ∧ name ≠ here

/-- The name of the file that the path leads to; a path that ends in `..` has none. -/
def Path.fileName? (p : Path) : Option Bytes := p.components.getLast?.filter (· ≠ above)

/-- What follows the last dot of a name.  A name that has no dot or starts with its only one has
    no extension. -/
def nameExtension? (name : Bytes) : Option Bytes :=
  let stem := (name.reverse.dropWhile (· ≠ dot)).drop 1
  if stem = [] then none else some (name.reverse.takeWhile (· ≠ dot)).reverse

/-- The extension of the file that the path leads to. -/
def Path.extension? (p : Path) : Option Bytes := p.fileName?.bind nameExtension?

/-- The path as text. -/
def Path.display (p : Path) : Text := decodeLossy p

end Synopsis
