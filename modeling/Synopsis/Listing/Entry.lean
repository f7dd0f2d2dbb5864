import Synopsis.Json.Fields
import Synopsis.Json.Printer
import Synopsis.Json.Reader

namespace Synopsis

/-!
# Entries of a listing

* `Entry` — a file or directory of a project;
* `Entry.toJson`, `Entry.render`, `Entry.ofJson?`, `Entry.read?` — entries in JSON.
-/

/-- A file or directory of a project. -/
structure Entry where
  /-- The path, beginning with the project's root. -/
  path : Text
  /-- The path below the project's root. -/
  relativePath : Text
  /-- Whether the path leads to a directory. -/
  isDirectory : Bool
  /-- The size in bytes. -/
  size : Nat
  /-- The number of lines, if they were counted. -/
  lineCount : Option Nat
  deriving Repr, DecidableEq

/-- The names of the fields, in order. -/
def Entry.fieldNames : List Text :=
  ["path", "relative_path", "is_dir", "size", "line_count"].map String.toList

/-- The values of the fields, in order. -/
def Entry.fieldValues (e : Entry) : List Json :=
  [.ofText e.path, .ofText e.relativePath, .bool e.isDirectory, .ofNat e.size,
    match e.lineCount with
    | some n => .ofNat n
    | none => .null]

/-- An entry as an object of all fields. -/
def Entry.toJson (e : Entry) : Json := .ofFields fieldNames e.fieldValues

/-- An entry as text. -/
def Entry.render (e : Entry) : Text := e.toJson.render

/-- The entry whose fields have the given values; only the line count may be missing. -/
def Entry.ofFields? : List (Option Json) → Option Entry
  | [path, relativePath, isDirectory, size, lineCount] => do
    return {
      path := ← required Json.text? path
      relativePath := ← required Json.text? relativePath
      isDirectory := ← required Json.flag? isDirectory
      size := ← required Json.word? size
      lineCount := ← optional Json.word? lineCount }
  | _ => none

/-- The entry that a value gives: an object of fields, or an array of all fields. -/
def Entry.ofJson? : Json → Option Entry
  | .object members => (objectFields? fieldNames members).bind ofFields?
  | .array items =>
    if items.length = fieldNames.length then ofFields? (items.map some) else none
  | _ => none

/-- The entry of a text. -/
def Entry.read? (s : Text) : Option Entry := (Json.parse? s).bind ofJson?

end Synopsis
