import Synopsis.Json.Double
import Synopsis.Json.Fields
import Synopsis.Json.Reader
import Synopsis.Path

namespace Synopsis

/-!
# Outlines of files

* `FileOutline` — the outline of a file, with the sizes of both;
* `FileOutline.ofJson?`, `FileOutline.read?` — file outlines in JSON.
-/

/-- The outline of a file, with the sizes of both. -/
structure FileOutline where
  /-- The path of the file. -/
  path : Path
  /-- The name of the file's language, if it is a known one. -/
  language : Option Text
  /-- The outline, if the language is supported. -/
  outline : Option Text
  /-- The number of lines of the file. -/
  sourceLines : Nat
  /-- The number of lines of the outline. -/
  outlineLines : Nat
  /-- The share of lines that the outline leaves out. -/
  compressionRatio : Float

/-- Whether the file could be outlined. -/
def FileOutline.isSupported (o : FileOutline) : Bool := o.outline.isSome

/-- The path as text; a path that is no text cannot be written. -/
def FileOutline.pathText? (o : FileOutline) : Option Text := decode? o.path

/-- The names of the fields, in order. -/
def FileOutline.fieldNames : List Text :=
  ["path", "language", "outline", "original_lines", "outline_lines",
    "compression_ratio"].map String.toList

/-- The double that a value is. -/
def Json.double? : Json → Option Float
  | .number n => n.double?
  | _ => none

/-- The file outline whose fields have the given values; only the language and the outline may
    be missing. -/
def FileOutline.ofFields? : List (Option Json) → Option FileOutline
  | [path, language, outline, sourceLines, outlineLines, ratio] => do
    return {
      path := encode (← required Json.text? path)
      language := ← optional Json.text? language
      outline := ← optional Json.text? outline
      sourceLines := ← required Json.word? sourceLines
      outlineLines := ← required Json.word? outlineLines
      compressionRatio := ← required Json.double? ratio }
  | _ => none

/-- The file outline that a value gives: an object of fields, or an array of all fields. -/
def FileOutline.ofJson? : Json → Option FileOutline
  | .object members => (objectFields? fieldNames members).bind ofFields?
  | .array items =>
    if items.length = fieldNames.length then ofFields? (items.map some) else none
  | _ => none

/-- The file outline of a text. -/
def FileOutline.read? (s : Text) : Option FileOutline := (Json.parse? s).bind ofJson?

end Synopsis
