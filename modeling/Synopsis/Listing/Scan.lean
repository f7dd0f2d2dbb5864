import Synopsis.Ignore.Layer
import Synopsis.Journal
import Synopsis.Listing.Entry
import Synopsis.Listing.LineTally
import Synopsis.Listing.Walk
import Synopsis.Settings

namespace Synopsis

/-!
# Listing a project

* `Settings.passesOver` — whether the settings pass over a name;
* `Volume.admits` — whether something is listed;
* `Volume.entry` — the entry of something that is listed;
* `scan` — the entries of a project.
-/

/-- Whether the settings pass over a name, be it that of a file or a directory. -/
def Settings.passesOver (s : Settings) (name : Bytes) : Bool :=
  s.ignoresDirectory (decodeLossy name) || s.ignoresFile (decodeLossy name)

/-- Whether the name begins with a dot. -/
def isHidden (name : Bytes) : Bool := name.head? = some dot

/-- Whether something is listed: no ignore file tells to ignore it, its name is not hidden unless
    an ignore file whitelists it, and the settings do not pass over its name.  `root` are the
    names that lead to the project. -/
def Volume.admits (v : Volume) (s : Settings) (root names : List Bytes) (isDirectory : Bool) :
    Bool :=
  let name := names.getLast?.getD []
  let isShown := match layersRuling? (v.layers (root ++ names)) isDirectory with
    | some .ignored => false
    | some .whitelisted => true
    | none => !isHidden name
  isShown && !s.passesOver name

/-- A path continued by names. -/
def Path.extend (p : Path) (names : List Bytes) : Path :=
  (if p.getLast? = some slash then p else p ++ [slash]) ++ joinNames names

/-- The number of lines of a file that the settings allow to read. -/
def Settings.countLines? (s : Settings) (f : File) : Option Nat :=
  if f.content.length ≤ s.maxFileBytes then some (countLines [f.content]) else none

/-- The entry of something below a project.  Size and lines are those of what its path leads to, so
    a link has those of its target, and a broken one has none. -/
def Volume.entry (v : Volume) (s : Settings) (root : Path) (found : Found) : Entry :=
  let path := root.extend found.names
  let entry (isDirectory : Bool) (size : Nat) (lineCount : Option Nat) : Entry :=
    ⟨decodeLossy path, decodeLossy (joinNames found.names), isDirectory, size, lineCount⟩
  match found.item with
  | .directory _ => entry true v.directorySize none
  | .file _ | .link _ =>
    match v.lookup path with
    | .ok (.file f) => entry false f.content.length (s.countLines? f)
    | .ok _ => entry true v.directorySize none
    | .error _ => entry false 0 none

/-- What is listed of the project that a spot is. -/
def Volume.listed (v : Volume) (s : Settings) : Spot → List Found
  | .directory way d => d.walk (v.admits s way) []
  | .file _ | .outside => []

/-- The entries of a project, by their paths below its root. -/
def scan (v : Volume) (s : Settings) (root : Path) : Except Error (List Entry) :=
  match s.fault? with
  | some fault => .error (.invalidSettings fault.reason)
  | none =>
    match v.lookup root with
    | .error _ => .error (.io (.rootMissing root.display))
    | .ok spot =>
      .ok (((v.listed s spot).map (v.entry s root)).mergeSort fun a b =>
        textLe a.relativePath b.relativePath)

end Synopsis
