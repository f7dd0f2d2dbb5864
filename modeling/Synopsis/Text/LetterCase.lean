import Synopsis.Text.CaseRanges

namespace Synopsis

/-!
# Lower case

* `lowercaseChar` — the lower case of a character, wherever it stands;
* `endsWordAt` — whether a character is the last letter of a word;
* `lowercase` — the lower case of a text; a capital sigma that ends a word becomes a final sigma.
-/

/-- The lower case of a character.  Only the capital I with a dot becomes two characters. -/
def lowercaseChar (c : Char) : Text :=
  if c = 'İ' then ['i', '\u0307']
  else [((lowercaseRuns.findSome? (·.lower? c.toNat)).map Char.ofNat).getD c]

/-- Whether a cased character comes first once the case-ignorable characters are passed over. -/
def startsCased (s : Text) : Bool :=
  (s.dropWhile (isWithin caseIgnorableRanges)).head?.any (isWithin casedRanges)

/-- Whether a letter between `before`, nearest character first, and `after` is the last one of
    a word of several letters. -/
def endsWordAt (before after : Text) : Bool := startsCased before && !startsCased after

/-- The lower case of a text that follows `before`, nearest character first. -/
def lowercaseAfter (before : Text) : Text → Text
  | [] => []
  | c :: r =>
    (if c = 'Σ' then [if endsWordAt before r then 'ς' else 'σ'] else lowercaseChar c)
      ++ lowercaseAfter (c :: before) r

/-- The lower case of a text. -/
def lowercase (s : Text) : Text := lowercaseAfter [] s

end Synopsis
