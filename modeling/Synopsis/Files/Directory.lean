import Synopsis.Outline.Capture
import Synopsis.Path

namespace Synopsis

/-!
# Directories

* `File` — a file, with the nodes that its source parses to;
* `Directory` — a directory with all below it;
* `Item` — what a directory holds under one name;
* `Directory.find?`, `Directory.put`, `Directory.erase` — looking up and changing an item;
* `Directory.at?`, `Directory.update` — reaching a directory further below.
-/

/-- A file, with the nodes that its source parses to. -/
structure File where
  /-- The content. -/
  content : Bytes
  /-- The captured nodes of the content, if it is a source. -/
  nodes : List TaggedNode
  deriving Repr, DecidableEq

/-- A directory: its items one after the other, in no particular order. -/
inductive Directory where
  /-- No items. -/
  | empty
  /-- A file, and the other items. -/
  | file (name : Bytes) (f : File) (others : Directory)
  /-- A symbolic link, and the other items. -/
  | link (name : Bytes) (target : Path) (others : Directory)
  /-- A directory, and the other items. -/
  | directory (name : Bytes) (sub : Directory) (others : Directory)
  deriving Repr, DecidableEq

/-- What a directory holds under one name. -/
inductive Item where
  | file (f : File)
  | link (target : Path)
  | directory (d : Directory)
  deriving Repr, DecidableEq

/-- The item of a given name. -/
def Directory.find? (name : Bytes) : Directory → Option Item
  | .empty => none
  | .file n f others => if n = name then some (.file f) else others.find? name
  | .link n target others => if n = name then some (.link target) else others.find? name
  | .directory n sub others => if n = name then some (.directory sub) else others.find? name

/-- The directory without the items of a given name. -/
def Directory.erase (name : Bytes) : Directory → Directory
  | .empty => .empty
  | .file n f others => if n = name then others.erase name else .file n f (others.erase name)
  | .link n target others =>
    if n = name then others.erase name else .link n target (others.erase name)
  | .directory n sub others =>
    if n = name then others.erase name else .directory n sub (others.erase name)

/-- The directory with an item under a name, in place of what was there. -/
def Directory.put (d : Directory) (name : Bytes) : Item → Directory
  | .file f => .file name f (d.erase name)
  | .link target => .link name target (d.erase name)
  | .directory sub => .directory name sub (d.erase name)

/-- An item is found under the name it was put. -/
theorem Directory.find?_put (d : Directory) (name : Bytes) (item : Item) :
    (d.put name item).find? name = some item := by
  cases item <;> simp [put, find?]

/-- The directory that names lead to, one below the other. -/
def Directory.at? (d : Directory) : List Bytes → Option Directory
  | [] => some d
  | name :: rest =>
    match d.find? name with
    | some (.directory sub) => sub.at? rest
    | _ => none

/-- The directory with another one in place of that which names lead to. -/
def Directory.update (d : Directory) (change : Directory → Directory) : List Bytes → Directory
  | [] => change d
  | name :: rest =>
    match d.find? name with
    | some (.directory sub) => d.put name (.directory (sub.update change rest))
    | _ => d

end Synopsis
