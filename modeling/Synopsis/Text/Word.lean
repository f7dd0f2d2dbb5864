import Synopsis.Text.WordRanges

namespace Synopsis

/-!
# Words

A word begins and ends where a word character has a neighbour that is none, or no neighbour.

* `isWordChar` — the property;
* `hasWord` — a text of word characters stands in another one as a whole word.
-/

/-- Whether the character can be part of a word. -/
def isWordChar (c : Char) : Bool := isWithin wordRanges c

/-- Whether the text begins inside a word. -/
def startsInWord (s : Text) : Bool := s.head?.any isWordChar

/-- Whether `word` stands in the text as a whole word; `inWord` tells whether a word character
    comes right before the text. -/
def hasWordFrom (word : Text) (inWord : Bool) : Text → Bool
  | [] => false
  | c :: r =>
    (!inWord && word.isPrefixOf (c :: r) && !startsInWord ((c :: r).drop word.length))
      || hasWordFrom word (isWordChar c) r

/-- Whether `word`, made of word characters, stands in the text as a whole word. -/
def hasWord (word s : Text) : Bool := hasWordFrom word false s

end Synopsis
