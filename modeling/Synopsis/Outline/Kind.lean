import Synopsis.Text.Search

namespace Synopsis

/-!
# Kinds of captures

* `Kind` — what a capture contributes to an outline;
* `Kind.ofTag` — the kind that a tag names;
* `Kind.isStructural` — whether equal texts of the kind stand in an outline only once.
-/

/-- What a capture contributes to an outline. -/
inductive Kind where
  /-- A comment, in full and as often as it occurs. -/
  | comment
  /-- An interface, type alias, enumeration or structure, in full. -/
  | typeDefinition
  /-- The declaration line of a class, with an inheritance line right below it. -/
  | classDefinition
  /-- An import, in full. -/
  | importClause
  /-- A property, in full. -/
  | property
  /-- The header of a function or method, without its body. -/
  | signature
  /-- Nothing. -/
  | irrelevant
  deriving Repr, DecidableEq

/-- The name under which messages mention the kind. -/
def Kind.label : Kind → Text
  | .comment => "Comment".toList
  | .typeDefinition => "TypeDefinition".toList
  | .classDefinition => "ClassDefinition".toList
  | .importClause => "Import".toList
  | .property => "Property".toList
  | .signature => "Signature".toList
  | .irrelevant => "Irrelevant".toList

/-- The words by which a tag tells its kind.  The first one that occurs in the tag decides, so a
    tag that mentions a class never counts as a type. -/
def Kind.vocabulary : List (Text × Kind) :=
  [("comment".toList, .comment), ("class".toList, .classDefinition),
   ("interface".toList, .typeDefinition), ("type".toList, .typeDefinition),
   ("enum".toList, .typeDefinition), ("import".toList, .importClause),
   ("function".toList, .signature), ("method".toList, .signature),
   ("property".toList, .property)]

/-- The kind that a tag names; a tag without any known word is irrelevant. -/
def Kind.ofTag (tag : Text) : Kind :=
  ((vocabulary.find? fun entry => occursIn entry.1 tag).map (·.2)).getD .irrelevant

/-- Whether equal texts of the kind stand in an outline only once. -/
def Kind.isStructural : Kind → Bool
  | .comment | .irrelevant => false
  | _ => true

end Synopsis
