import Synopsis.Files.Lookup

namespace Synopsis

/-!
# Changing files

* `Volume.makeDirectory`, `Volume.write`, `Volume.makeLink`, `Volume.remove` — the changes; none
  if something is in the way.
-/

/-- The directory that names lead to, made where it is missing: the changed working directory and
    the way to that directory. -/
def Directory.make (top : Directory) (way : List Bytes) : List Bytes → Option (Directory × List Bytes)
  | [] => some (top, way)
  | name :: rest =>
    match top.at? way with
    | none => none
    | some d =>
      match top.follow maxLinks (.directory way d) [name] with
      | .ok (.directory next _) => top.make next rest
      | .error .notFound =>
        if (d.find? name).isSome then none
        else (top.update (·.put name (.directory .empty)) way).make (way ++ [name]) rest
      | _ => none

/-- Where a file is to be written: the way to its directory, and its name there.  A link leads to
    where its target is. -/
def Directory.destination? (top : Directory) :
    Nat → List Bytes → Bytes → Option (List Bytes × Bytes)
  | links, way, name =>
    match (top.at? way).bind (·.find? name) with
    | some (.directory _) => none
    | some (.link target) =>
      match links, target.components.getLast?, top.at? way with
      | links + 1, some last, some d =>
        match top.follow links (.directory way d) target.components.dropLast with
        | .ok (.directory next _) => top.destination? links next last
        | _ => none
      | _, _, _ => none
    | _ => some (way, name)

/-- The volume with a directory, and with the directories above it. -/
def Volume.makeDirectory (v : Volume) (p : Path) : Option Volume :=
  (v.top.make [] p.components).map fun (top, _) => ⟨top, v.directorySize⟩

/-- The volume with an item at a path, and with the directories above it. -/
def Volume.place (v : Volume) (p : Path)
    (change : Directory → List Bytes → Bytes → Option Directory) : Option Volume := do
  let name ← p.components.getLast?
  let (top, way) ← v.top.make [] p.components.dropLast
  return ⟨← change top way name, v.directorySize⟩

/-- The volume with a file at a path; where there is a link, with the file at its target. -/
def Volume.write (v : Volume) (p : Path) (f : File) : Option Volume :=
  v.place p fun top way name => do
    let (way, name) ← top.destination? maxLinks way name
    return top.update (·.put name (.file f)) way

/-- The volume with a symbolic link at a path. -/
def Volume.makeLink (v : Volume) (p : Path) (target : Path) : Option Volume :=
  v.place p fun top way name => some (top.update (·.put name (.link target)) way)

/-- The volume without what is at a path: a file, a symbolic link, or a directory with all below
    it. -/
def Volume.remove (v : Volume) (p : Path) : Option Volume :=
  v.place p fun top way name => some (top.update (·.erase name) way)

end Synopsis
