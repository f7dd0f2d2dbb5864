import Synopsis.Error
import Synopsis.Files.Directory

namespace Synopsis

/-!
# Following paths

A path is followed name by name.  A symbolic link stands for the names of its target; only so
many links are followed for one path.

* `Volume` — the files that can be reached;
* `Spot` — where a path leads;
* `Directory.follow` — the way along names;
* `Volume.lookup`, `Volume.status`, `Volume.file` — what is at a path;
* `Storage` — whatever can be asked for the files at paths, as a volume can.
-/

/-- The files that can be reached: those of the working directory. -/
structure Volume where
  /-- The working directory. -/
  top : Directory
  /-- The size that is reported for a directory. -/
  directorySize : Nat
  deriving Repr, DecidableEq

/-- Where a path leads. -/
inductive Spot where
  /-- A directory outside the working directory, of which nothing is known. -/
  | outside
  /-- A directory, with the names that lead to it from the working directory. -/
  | directory (way : List Bytes) (d : Directory)
  /-- A file. -/
  | file (f : File)
  deriving Repr, DecidableEq

/-- The number of bytes that a name may have. -/
def maxNameBytes : Nat := 255

/-- The number of bytes that a path may have. -/
def maxPathBytes : Nat := 4095

/-- The number of links that are followed for one path. -/
def maxLinks : Nat := 40

/-- Whether the path does not begin at the working directory. -/
def Path.isAbsolute (p : Path) : Bool := p.head? = some slash

/-- The names on a path.  A slash at the end asks for a directory, as the name `.` does. -/
def Path.steps (p : Path) : List Bytes :=
  (p.splitOn slash).filter (· ≠ []) ++ if p.getLast? = some slash then [here] else []

/-- The directory above the one that names lead to. -/
def Directory.spotAbove (top : Directory) (way : List Bytes) : Spot :=
  if way = [] then .outside
  else
    match top.at? way.dropLast with
    | some d => .directory way.dropLast d
    | none => .outside

/-- Where names lead from a spot, if at most `links` links are followed. -/
def Directory.follow (top : Directory) (links : Nat) (spot : Spot) (names : List Bytes) :
    Except FileFault Spot :=
  match names with
  | [] => .ok spot
  | name :: rest =>
    match spot with
    | .file _ => .error .notDirectory
    | .outside =>
      if name = here ∨ name = above then top.follow links .outside rest
      else if maxNameBytes < name.length then .error .nameTooLong
      else .error .notFound
    | .directory way d =>
      if name = here then top.follow links (.directory way d) rest
      else if name = above then top.follow links (top.spotAbove way) rest
      else if maxNameBytes < name.length then .error .nameTooLong
      else
        match d.find? name with
        | none => .error .notFound
        | some (.file f) => top.follow links (.file f) rest
        | some (.directory sub) => top.follow links (.directory (way ++ [name]) sub) rest
        | some (.link target) =>
          match links with
          | 0 => .error .linkLoop
          | links + 1 =>
            top.follow links (if target.isAbsolute then .outside else .directory way d)
              (target.steps ++ rest)
termination_by (links, names.length)

/-- Where a path leads. -/
def Volume.lookup (v : Volume) (p : Path) : Except FileFault Spot :=
  if 0 ∈ p then .error .zeroInPath
  else if p = [] then .error .notFound
  else if maxPathBytes < p.length then .error .nameTooLong
  else v.top.follow maxLinks (if p.isAbsolute then .outside else .directory [] v.top) p.steps

/-- What is known of a file or directory without reading it. -/
structure Status where
  /-- Whether it is a directory. -/
  isDirectory : Bool
  /-- Its size in bytes. -/
  size : Nat
  deriving Repr, DecidableEq

/-- The status of what a path leads to. -/
def Volume.status (v : Volume) (p : Path) : Except FileFault Status :=
  (v.lookup p).map fun spot =>
    match spot with
    | .file f => ⟨false, f.content.length⟩
    | .directory _ _ | .outside => ⟨true, v.directorySize⟩

/-- The file that a path leads to. -/
def Volume.file (v : Volume) (p : Path) : Except FileFault File := do
  match ← v.lookup p with
  | .file f => .ok f
  | .directory _ _ | .outside => .error .isDirectory

/-- What can be asked for the files at paths.  Nothing is said about how it answers. -/
structure Storage where
  /-- The status of what is at a path. -/
  status : Path → Except FileFault Status
  /-- The file at a path. -/
  file : Path → Except FileFault File

/-- A volume can be asked. -/
def Volume.storage (v : Volume) : Storage := ⟨v.status, v.file⟩

/-- The text of the file at a path, with its nodes. -/
def Storage.read (st : Storage) (p : Path) : Except FileFault (Text × List TaggedNode) := do
  let f ← st.file p
  match decode? f.content with
  | some text => .ok (text, f.nodes)
  | none => .error .notText

end Synopsis
