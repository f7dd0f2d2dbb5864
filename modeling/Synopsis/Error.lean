import Synopsis.Language.Basic

namespace Synopsis

/-!
# Errors

* `FileFault` — why a file cannot be read;
* `Error` — why an operation fails;
* `Error.message` — the words in which it is reported.
-/

/-- Why a file cannot be read. -/
inductive FileFault where
  /-- Nothing is at the path. -/
  | notFound
  /-- The path leads through something that is no directory. -/
  | notDirectory
  /-- A directory has no content. -/
  | isDirectory
  /-- A name on the path has too many bytes. -/
  | nameTooLong
  /-- Following the symbolic links on the path does not come to an end. -/
  | linkLoop
  /-- The path contains a zero byte. -/
  | zeroInPath
  /-- The content is no text. -/
  | notText
  /-- The directory to list is missing. -/
  | rootMissing (root : Text)
  /-- Any other reason, in the words of whoever found it. -/
  | other (reason : Text)
  deriving Repr, DecidableEq

/-- The words in which a fault is reported. -/
def FileFault.message : FileFault → Text
  | .notFound => "No such file or directory (os error 2)".toList
  | .notDirectory => "Not a directory (os error 20)".toList
  | .isDirectory => "Is a directory (os error 21)".toList
  | .nameTooLong => "File name too long (os error 36)".toList
  | .linkLoop => "Too many levels of symbolic links (os error 40)".toList
  | .zeroInPath => "file name contained an unexpected NUL byte".toList
  | .notText => "stream did not contain valid UTF-8".toList
  | .rootMissing root => root ++ " does not exist".toList
  | .other reason => reason

/-- Why an operation fails. -/
inductive Error where
  /-- A file cannot be read. -/
  | io (fault : FileFault)
  /-- The capture query of a language is faulty. -/
  | queryCompile (language : Language) (reason : Text)
  /-- A source cannot be parsed. -/
  | parseFailed (language : Language)
  /-- A file is larger than the settings allow. -/
  | fileTooLarge (path : Path) (size limit : Nat)
  /-- The settings are refused. -/
  | invalidSettings (reason : Text)
  deriving Repr, DecidableEq

/-- The words in which an error is reported. -/
def Error.message : Error → Text
  | .io fault => "IO error: ".toList ++ fault.message
  | .queryCompile l reason =>
    "Failed to compile ".toList ++ l.name ++ " query: ".toList ++ reason
  | .parseFailed l => "Failed to parse ".toList ++ l.name ++ " content".toList
  | .fileTooLarge path size limit =>
    path.display ++ " is ".toList ++ decimal size ++ " bytes, limit is ".toList ++ decimal limit
  | .invalidSettings reason => "Invalid configuration: ".toList ++ reason

end Synopsis
