import Synopsis.Text.Basic

namespace Synopsis

/-!
# Columns

A column counts the bytes of a row in UTF-8.
-/

/-- The first `n` bytes of the text, if the text has as many and no character straddles the
    end of them. -/
def bytePrefix? : Text → Nat → Option Text
  | [], n => if n = 0 then some [] else none
  | c :: r, n =>
    if n = 0 then some []
    else if c.utf8Size ≤ n then (bytePrefix? r (n - c.utf8Size)).map (c :: ·)
    else none

end Synopsis
