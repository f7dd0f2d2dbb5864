import Synopsis.Text.LetterCase
import Synopsis.Text.Quoted
import Synopsis.Text.Search

namespace Synopsis

/-!
# Settings

* `Settings` — which files of a project are listed and read;
* `Settings.fault?` — what is wrong with settings, if anything;
* `Settings.ignoresDirectory`, `Settings.ignoresFile` — which names are passed over.
-/

/-- Which files of a project are listed and read. -/
structure Settings where
  /-- The size in bytes up to which files are read. -/
  maxFileBytes : Nat
  /-- Names of directories that are passed over. -/
  ignoredDirs : List Text
  /-- Names of files that are passed over. -/
  ignoredFiles : List Text
  /-- Endings of the names of files that are passed over, each with a dot in front. -/
  ignoredExtensions : List Text
  /-- Whether the files of a batch may be outlined at the same time. -/
  parallel : Bool
  deriving Repr, DecidableEq

/-- The settings that hold where nothing else is said. -/
def Settings.default : Settings where
  maxFileBytes := 10 * 1024 * 1024
  ignoredDirs :=
    ["node_modules", "target", "dist", "build", "out", ".git", ".vscode", ".idea",
      "__pycache__"].map String.toList
  ignoredFiles := [".DS_Store", "Thumbs.db"].map String.toList
  ignoredExtensions :=
    [".png", ".jpg", ".jpeg", ".gif", ".webp", ".ico", ".bmp", ".tiff", ".woff", ".woff2",
      ".ttf", ".eot", ".exe", ".dll", ".so", ".dylib", ".bin", ".obj", ".o", ".a", ".lib",
      ".pdf", ".zip", ".tar", ".gz", ".7z", ".rar"].map String.toList
  parallel := true

/-- A reason to refuse settings. -/
inductive Settings.Fault where
  /-- No file could be read. -/
  | noBytesAllowed
  /-- An ignored extension has no dot in front. -/
  | extensionWithoutDot (extension : Text)
  deriving Repr, DecidableEq

/-- The words in which a fault is reported. -/
def Settings.Fault.reason : Settings.Fault → Text
  | .noBytesAllowed => "max_file_bytes must be greater than 0".toList
  | .extensionWithoutDot ext =>
    "ignored extension ".toList ++ quoted ext ++ " must start with '.'".toList

/-- Whether the extension has a dot in front. -/
def startsWithDot (ext : Text) : Bool := ext.head? = some '.'

/-- What is wrong with the settings.  Of several faults the size limit comes first, and then the
    first extension in the list. -/
def Settings.fault? (s : Settings) : Option Settings.Fault :=
  if s.maxFileBytes = 0 then some .noBytesAllowed
  else (s.ignoredExtensions.find? fun e => !startsWithDot e).map .extensionWithoutDot

/-- Whether directories of that name are passed over. -/
def Settings.ignoresDirectory (s : Settings) (name : Text) : Bool := s.ignoredDirs.contains name

/-- Whether files of that name are passed over: by the name itself, or by its end in lower
    case. -/
def Settings.ignoresFile (s : Settings) (name : Text) : Bool :=
  s.ignoredFiles.contains name || s.ignoredExtensions.any fun e => endsWith e (lowercase name)

end Synopsis
