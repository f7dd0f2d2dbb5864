import Synopsis.Batch.FileOutline
import Synopsis.Extractor
import Synopsis.Files.Lookup
import Synopsis.Ratio
import Synopsis.Settings

namespace Synopsis

/-!
# Outlining files

* `FileOutline.ofOutline` — the outline of a file with the sizes of both;
* `Storage.source` — what is read of a file to outline it;
* `outlineFile` — the outline of one file;
* `outlineFiles` — the outlines of several files; one that fails does not affect the others.
-/

/-- The outline of a file of the given content, with the sizes of both. -/
def FileOutline.ofOutline (path : Path) (content : Text) (outline : Outline) : FileOutline :=
  let sourceLines := (lines content).length
  let outlineLines := (outline.text?.map fun text => (lines text).length).getD 0
  { path
    language := (Language.ofPath? path).map Language.name
    outline := outline.text?
    sourceLines
    outlineLines
    compressionRatio := Synopsis.compressionRatio sourceLines outlineLines }

/-- The content of a file that may be outlined.  The settings are checked first, then whether
    there is such a file, then its size, and last its content. -/
def Storage.source (st : Storage) (s : Settings) (path : Path) :
    Except Error (Text × List TaggedNode) :=
  match s.fault? with
  | some fault => .error (.invalidSettings fault.reason)
  | none =>
    match st.status path with
    | .error fault => .error (.io fault)
    | .ok status =>
      if s.maxFileBytes < status.size then
        .error (.fileTooLarge path status.size s.maxFileBytes)
      else
        match st.read path with
        | .error fault => .error (.io fault)
        | .ok source => .ok source

/-- The outline of one file. -/
def Storage.outlineFile (st : Storage) (x : Extractor) (s : Settings) (path : Path) :
    Logged (Except Error FileOutline) :=
  match st.source s path with
  | .error error => ⟨.error error, []⟩
  | .ok (content, nodes) =>
    let outline := x.extract path content nodes
    ⟨.ok (.ofOutline path content outline.value), outline.log⟩

/-- The record of a file of a batch that was not outlined. -/
def failureLog (path : Path) : Except Error FileOutline → List Record
  | .error error => [.failed path error]
  | .ok _ => []

/-- The outline of one file of a batch, with a record if it fails. -/
def Storage.outlineInBatch (st : Storage) (x : Extractor) (s : Settings) (path : Path) :
    Logged (Except Error FileOutline) :=
  let result := st.outlineFile x s path
  ⟨result.value, result.log ++ failureLog path result.value⟩

/-- The outlines of several files, in the order of their paths. -/
def Storage.outlineFiles (st : Storage) (x : Extractor) (s : Settings) (paths : List Path) :
    Logged (List (Except Error FileOutline)) :=
  let results := paths.map (st.outlineInBatch x s)
  ⟨results.map (·.value), results.flatMap (·.log)⟩

/-- The outline of one file of a volume. -/
def outlineFile (v : Volume) (x : Extractor) (s : Settings) (path : Path) :
    Logged (Except Error FileOutline) :=
  v.storage.outlineFile x s path

/-- The outlines of several files of a volume. -/
def outlineFiles (v : Volume) (x : Extractor) (s : Settings) (paths : List Path) :
    Logged (List (Except Error FileOutline)) :=
  v.storage.outlineFiles x s paths

end Synopsis
