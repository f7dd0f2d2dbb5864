import Synopsis.Path
import Synopsis.Text.LetterCase

namespace Synopsis

/-!
# Languages

* `Language` — the languages that can be outlined;
* `Language.extensions` — the file extensions of a language, in lower case;
* `Language.ofExtension?`, `Language.ofPath?` — the language of a file.
-/

/-- A language that can be outlined. -/
inductive Language where
  | typeScript
  /-- TypeScript with embedded markup. -/
  | typeScriptMarkup
  | javaScript
  /-- JavaScript with embedded markup. -/
  | javaScriptMarkup
  | python
  | rust
  | go
  | c
  deriving Repr, DecidableEq

/-- Every language, in a fixed order. -/
def Language.all : List Language :=
  [.typeScript, .typeScriptMarkup, .javaScript, .javaScriptMarkup, .python, .rust, .go, .c]

/-- The name of the language. -/
def Language.name : Language → Text
  | .typeScript => "typescript".toList
  | .typeScriptMarkup => "tsx".toList
  | .javaScript => "javascript".toList
  | .javaScriptMarkup => "jsx".toList
  | .python => "python".toList
  | .rust => "rust".toList
  | .go => "go".toList
  | .c => "c".toList

/-- The extensions of the language's files, in lower case. -/
def Language.extensions : Language → List Text
  | .typeScript => ["ts".toList, "mts".toList, "cts".toList]
  | .typeScriptMarkup => ["tsx".toList]
  | .javaScript => ["js".toList, "mjs".toList, "cjs".toList]
  | .javaScriptMarkup => ["jsx".toList]
  | .python => ["py".toList, "pyw".toList, "pyi".toList]
  | .rust => ["rs".toList]
  | .go => ["go".toList]
  | .c => ["c".toList, "h".toList]

/-- The language whose files have the extension, in any letter case. -/
def Language.ofExtension? (ext : Text) : Option Language :=
  all.find? fun l => lowercase ext ∈ l.extensions

/-- The language of a file, of which only the extension counts. -/
def Language.ofPath? (p : Path) : Option Language :=
  (p.extension?.bind decode?).bind ofExtension?

/-- The language of a given name. -/
def Language.ofName? (name : Text) : Option Language := all.find? (·.name = name)

end Synopsis
