import Synopsis.Path

namespace Synopsis

/-!
# Globs

A glob is a pattern for paths below a directory.  It is matched byte by byte.

* `GlobToken` — a part of a glob;
* `matchesTokens` — whether parts in a row match a path;
* `Glob`, `Glob.accepts` — patterns with alternatives.
-/

/-- A part of a glob. -/
inductive GlobToken where
  /-- The byte itself. -/
  | byte (b : UInt8)
  /-- Any byte but a slash. -/
  | one
  /-- Any number of bytes but slashes. -/
  | many
  /-- A byte within one of the ranges, or within none of them. -/
  | oneOf (negated : Bool) (ranges : List (UInt8 × UInt8))
  /-- Nothing, or directories with the slash after them. -/
  | leading
  /-- A slash, or directories between two slashes. -/
  | between
  /-- A slash and whatever comes after it. -/
  | trailing
  /-- Whatever comes. -/
  | everything
  deriving Repr, DecidableEq

/-- What may be left of a path once any number of its bytes are taken. -/
def suffixes : Bytes → List Bytes
  | [] => [[]]
  | b :: r => (b :: r) :: suffixes r

/-- What may be left of a path once any number of bytes that are no slashes are taken. -/
def nameSuffixes : Bytes → List Bytes
  | [] => [[]]
  | b :: r => (b :: r) :: if b = slash then [] else nameSuffixes r

/-- What may be left of a path once all up to some slash is taken. -/
def slashSuffixes : Bytes → List Bytes
  | [] => []
  | b :: r => if b = slash then r :: slashSuffixes r else slashSuffixes r

/-- Whether parts in a row match a path from its start to its end. -/
def matchesTokens : List GlobToken → Bytes → Bool
  | [], path => path.isEmpty
  | .byte b :: rest, c :: r => b == c && matchesTokens rest r
  | .one :: rest, c :: r => c != slash && matchesTokens rest r
  | .oneOf negated ranges :: rest, c :: r =>
    (ranges.any fun (first, last) => first ≤ c && c ≤ last) != negated && matchesTokens rest r
  | .many :: rest, path => (nameSuffixes path).any (matchesTokens rest)
  | .leading :: rest, path =>
    matchesTokens rest path || (slashSuffixes path).any (matchesTokens rest)
  | .between :: rest, c :: r =>
    c == slash && (matchesTokens rest r || (slashSuffixes r).any (matchesTokens rest))
  | .trailing :: rest, c :: r => c == slash && (suffixes r).any (matchesTokens rest)
  | .everything :: rest, path => (suffixes path).any (matchesTokens rest)
  | _ :: _, [] => false

/-- A pattern: several rows of parts, of which one has to match. -/
structure Glob where
  /-- The rows of parts. -/
  alternatives : List (List GlobToken)
  deriving Repr, DecidableEq

/-- Whether the pattern matches a path. -/
def Glob.accepts (g : Glob) (path : Bytes) : Bool := g.alternatives.any (matchesTokens · path)

end Synopsis
