import Synopsis.Outline.Assembler
import Synopsis.Text.Lines

namespace Synopsis

/-!
# Extracting outlines

* `Outline` — the outline of a file, if its language is supported;
* `Extractor` — the languages that are outlined;
* `Extractor.extract` — the outline of one file.
-/

/-- The outline of a file. -/
inductive Outline where
  /-- The outline; empty if nothing qualified. -/
  | text (t : Text)
  /-- The language of the file is not supported. -/
  | unsupported
  deriving Repr, DecidableEq

/-- The text of an outline. -/
def Outline.text? : Outline → Option Text
  | .text t => some t
  | .unsupported => none

/-- What outlines files. -/
structure Extractor where
  /-- The languages that are outlined. -/
  languages : List Language
  deriving Repr, DecidableEq

/-- Outlines files of every language. -/
def Extractor.full : Extractor := ⟨Language.all⟩

/-- Whether files of the language are outlined. -/
def Extractor.supports (x : Extractor) (l : Language) : Bool := x.languages.contains l

/-- The language of a file, if such files are outlined. -/
def Extractor.languageOf? (x : Extractor) (path : Path) : Option Language :=
  (Language.ofPath? path).filter x.supports

/-- The outline of a file of the given content, in which `nodes` were captured. -/
def Extractor.extract (x : Extractor) (path : Path) (content : Text)
    (nodes : List TaggedNode) : Logged Outline :=
  match x.languageOf? path with
  | none => ⟨.unsupported, []⟩
  | some l =>
    let source := lines content
    let built := buildOutline source (captures nodes)
    let record := .outlined path l source.length (lines built.value).length
    ⟨.text built.value, built.log ++ [record]⟩

end Synopsis
