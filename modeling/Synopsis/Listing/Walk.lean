import Synopsis.Files.Directory

namespace Synopsis

/-!
# Walking directories

* `Found` — something below a directory;
* `Directory.walk` — all that is admitted below a directory.  What is below a directory that is
  not admitted is not looked at, and links are not followed.
-/

/-- Something below a directory. -/
structure Found where
  /-- The names that lead to it. -/
  names : List Bytes
  /-- What it is. -/
  item : Item
  deriving Repr, DecidableEq

/-- All that is admitted in a directory which `way` leads to, and in the directories below it.
    Each item is judged by the names that lead to it and by whether it is a directory. -/
def Directory.walk (admits : List Bytes → Bool → Bool) (way : List Bytes) : Directory → List Found
  | .empty => []
  | .file name f others =>
    (if admits (way ++ [name]) false then [⟨way ++ [name], .file f⟩] else [])
      ++ others.walk admits way
  | .link name target others =>
    (if admits (way ++ [name]) false then [⟨way ++ [name], .link target⟩] else [])
      ++ others.walk admits way
  | .directory name sub others =>
    (if admits (way ++ [name]) true then
      ⟨way ++ [name], .directory sub⟩ :: sub.walk admits (way ++ [name]) else [])
      ++ others.walk admits way

end Synopsis
