import Synopsis.Json.Fields
import Synopsis.Json.Printer
import Synopsis.Json.Reader
import Synopsis.Settings

namespace Synopsis

/-!
# Settings in JSON

* `Settings.toJson`, `Settings.render` — settings as JSON;
* `Settings.ofJson?` — the settings that a value gives; fields that are missing have their
  default;
* `Settings.read` — the settings of a text, unless it is malformed or they are at fault.
-/

/-- The names of the fields, in order. -/
def Settings.fieldNames : List Text :=
  ["max_file_bytes", "ignored_dirs", "ignored_files", "ignored_extensions",
    "parallel"].map String.toList

/-- The values of the fields, in order. -/
def Settings.fieldValues (s : Settings) : List Json :=
  [.ofNat s.maxFileBytes, .ofTexts s.ignoredDirs, .ofTexts s.ignoredFiles,
    .ofTexts s.ignoredExtensions, .bool s.parallel]

/-- Settings as an object of all fields. -/
def Settings.toJson (s : Settings) : Json :=
  .ofFields fieldNames s.fieldValues

/-- Settings as text. -/
def Settings.render (s : Settings) : Text := s.toJson.render

/-- The settings whose fields have the given values. -/
def Settings.ofFields? : List (Option Json) → Option Settings
  | [limit, dirs, files, extensions, parallel] => do
    return {
      maxFileBytes := ← withDefault default.maxFileBytes Json.word? limit
      ignoredDirs := ← withDefault default.ignoredDirs Json.texts? dirs
      ignoredFiles := ← withDefault default.ignoredFiles Json.texts? files
      ignoredExtensions := ← withDefault default.ignoredExtensions Json.texts? extensions
      parallel := ← withDefault default.parallel Json.flag? parallel }
  | _ => none

/-- The settings that a value gives: an object of fields, or an array of the first fields. -/
def Settings.ofJson? : Json → Option Settings
  | .object members => (objectFields? fieldNames members).bind ofFields?
  | .array items =>
    if items.length ≤ fieldNames.length then ofFields? (arrayFields fieldNames items) else none
  | _ => none

/-- Why a text gives no settings. -/
inductive Settings.ReadError where
  /-- It is no JSON of settings. -/
  | malformed
  /-- The settings are at fault. -/
  | fault (fault : Settings.Fault)
  deriving Repr, DecidableEq

/-- The settings of a text. -/
def Settings.read (s : Text) : Except Settings.ReadError Settings :=
  match (Json.parse? s).bind ofJson? with
  | none => .error .malformed
  | some settings =>
    match settings.fault? with
    | some fault => .error (.fault fault)
    | none => .ok settings

end Synopsis
