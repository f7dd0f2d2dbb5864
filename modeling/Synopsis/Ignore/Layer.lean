import Synopsis.Files.Lookup
import Synopsis.Ignore.Rule

namespace Synopsis

/-!
# Ignore files of nested directories

The ignore files of a directory are for all paths below it.  For one kind of file the deepest
directory with a rule for the path decides.  The files `.gitignore` and `.git/info/exclude` count
only within a repository, up to the directory that holds it.

* `Layer` — the ignore files of one directory;
* `Volume.layer`, `Volume.layers` — the layers for a path;
* `layersRuling?` — what all layers say.
-/

/-- The ignore files of a directory above a path. -/
structure Layer where
  /-- The path from that directory. -/
  path : Bytes
  /-- The rules for every directory. -/
  general : List Rule
  /-- The rules of the repository's directories. -/
  versioned : List Rule
  /-- The rules of the repository itself. -/
  excluded : List Rule
  /-- Whether the directory holds a repository. -/
  isRepository : Bool
  deriving Repr, DecidableEq

/-- Names joined to a path. -/
def joinNames (names : List Bytes) : Bytes := [slash].intercalate names

/-- What is at names below a directory, which `way` leads to. -/
def Volume.below (v : Volume) (way : List Bytes) (names : List String) : Option Spot :=
  match v.top.at? way with
  | some d =>
    (v.top.follow maxLinks (.directory way d) (names.map fun n => encode n.toList)).toOption
  | none => none

/-- The rules of an ignore file below a directory, which `way` leads to; none if there is no such
    file. -/
def Volume.rulesAt (v : Volume) (way : List Bytes) (names : List String) : List Rule :=
  match v.below way names with
  | some (.file f) => rulesOf f.content
  | _ => []

/-- The layer of the directory that `way` leads to, for a path of names from there. -/
def Volume.layer (v : Volume) (way names : List Bytes) : Layer where
  path := joinNames names
  general := v.rulesAt way [".ignore"]
  versioned := v.rulesAt way [".gitignore"]
  excluded := v.rulesAt way [".git", "info", "exclude"]
  isRepository := (v.below way [".git"]).isSome

/-- The layers for what names lead to, deepest first. -/
def Volume.layers (v : Volume) (names : List Bytes) : List Layer :=
  (List.range names.length).reverse.map fun depth =>
    v.layer (names.take depth) (names.drop depth)

/-- The layers up to the first repository, if there is one. -/
def repositoryLayers : List Layer → Option (List Layer)
  | [] => none
  | l :: rest => if l.isRepository then some [l] else (repositoryLayers rest).map (l :: ·)

/-- What the layers for a path say of it. -/
def layersRuling? (layers : List Layer) (isDirectory : Bool) : Option Ruling :=
  let within := (repositoryLayers layers).getD []
  (layers.findSome? fun l => ruling? l.general l.path isDirectory)
    <|> (within.findSome? fun l => ruling? l.versioned l.path isDirectory)
    <|> (within.findSome? fun l => ruling? l.excluded l.path isDirectory)

end Synopsis
