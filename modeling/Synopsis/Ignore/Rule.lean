import Synopsis.Ignore.GlobReader
import Synopsis.Text.Blank
import Synopsis.Text.Lines
import Synopsis.Text.Search

namespace Synopsis

/-!
# Rules of ignore files

* `Rule` — a line of an ignore file;
* `Rule.ofLine?` — how a line is read;
* `rulesOf` — the rules of an ignore file;
* `Ruling`, `ruling?` — what rules say of a path.
-/

/-- A line of an ignore file. -/
structure Rule where
  /-- Whether the rule takes back what earlier ones say. -/
  whitelists : Bool
  /-- Whether the rule is for directories alone. -/
  directoriesOnly : Bool
  /-- The paths that the rule is for, from the directory of the ignore file. -/
  glob : Glob
  deriving Repr, DecidableEq

/-- The text without a given beginning, and whether it had it. -/
def dropLeading (c : Char) : Text → Bool × Text
  | [] => (false, [])
  | d :: r => if d = c then (true, r) else (false, d :: r)

/-- The line without white space at its end, unless that is escaped. -/
def trimRule (line : Text) : Text := if endsWith ['\\', ' '] line then line else trimEnd line

/-- The marks at the start of a rule: whether it takes back, whether it is bound to the directory
    of the ignore file, and the rest.  A backslash keeps a mark from being one. -/
def ruleMarks (line : Text) : Bool × Bool × Text :=
  match line with
  | '\\' :: '!' :: r => (false, false, '!' :: r)
  | '\\' :: '#' :: r => (false, false, '#' :: r)
  | _ =>
    let (whitelists, r) := dropLeading '!' line
    let (anchored, r) := dropLeading '/' r
    (whitelists, anchored, r)

/-- The pattern without a slash at its end, and without a backslash right before that slash. -/
def dropFinalSlash (pattern : Text) : Text :=
  let r := pattern.dropLast
  if r.getLast? = some '\\' then r.dropLast else r

/-- A pattern without any slash is for names in all directories below. -/
def spread (pattern : Text) : Text :=
  if '/' ∈ pattern ∨ pattern = ['*', '*'] then pattern else "**/".toList ++ pattern

/-- A pattern for all below a directory is not for the directory itself. -/
def onlyBelow (pattern : Text) : Text :=
  if endsWith "/**".toList pattern then pattern ++ "/*".toList else pattern

/-- The rule of a line.  Comments, blank lines and malformed patterns make no rule. -/
def Rule.ofLine? (line : Text) : Option Rule :=
  let text := trimRule line
  if line.head? = some '#' ∨ text = [] then none
  else
    let (whitelists, anchored, body) := ruleMarks text
    let directoriesOnly := body.getLast? = some '/'
    let pattern := if directoriesOnly then dropFinalSlash body else body
    (Glob.read? (onlyBelow (if anchored then pattern else spread pattern))).map fun glob =>
      ⟨whitelists, directoriesOnly, glob⟩

/-- The lines of a file up to the first one that is no text. -/
def textLines (content : Bytes) : List Text :=
  let pieces := (content.splitOn 0x0A).map decode?
  let texts := (pieces.takeWhile Option.isSome).filterMap id
  if texts.length = pieces.length then texts.dropLast.map dropReturn ++ openLine texts
  else texts.map dropReturn

/-- The first line without byte order marks, and the other lines. -/
def dropMarks : List Text → List Text
  | [] => []
  | line :: rest => line.dropWhile (· = '\uFEFF') :: rest

/-- The rules of an ignore file. -/
def rulesOf (content : Bytes) : List Rule := (dropMarks (textLines content)).filterMap Rule.ofLine?

/-- What rules say of a path. -/
inductive Ruling where
  | ignored
  | whitelisted
  deriving Repr, DecidableEq

/-- Whether the rule is for a path. -/
def Rule.applies (r : Rule) (path : Bytes) (isDirectory : Bool) : Bool :=
  (!r.directoriesOnly || isDirectory) && r.glob.accepts path

/-- What rules say of a path.  The last rule that is for the path decides. -/
def ruling? (rules : List Rule) (path : Bytes) (isDirectory : Bool) : Option Ruling :=
  (rules.reverse.find? (·.applies path isDirectory)).map fun r =>
    if r.whitelists then .whitelisted else .ignored

end Synopsis
