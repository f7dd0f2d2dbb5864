import Synopsis.Text.GraphicRanges

namespace Synopsis

/-!
# Quoted text

Text between quotation marks in which every character can be seen.

* `isPlain` — whether a character stands for itself;
* `escapeChar`, `quoted` — the quoted form: `\"`, `\\`, `\t`, `\r`, `\n`, `\0`, and the code point
  in hexadecimal for whatever shows nothing of its own.
-/

/-- Whether the character shows by itself. -/
def isPlain (c : Char) : Bool :=
  !isWithin graphemeExtendRanges c && !isWithin nongraphicRanges c

/-- The quoted form of one character. -/
def escapeChar (c : Char) : Text :=
  match c with
  | '\x00' => ['\\', '0']
  | '\t' => ['\\', 't']
  | '\r' => ['\\', 'r']
  | '\n' => ['\\', 'n']
  | '\\' => ['\\', '\\']
  | '"' => ['\\', '"']
  | c => if isPlain c then [c] else "\\u\x7b".toList ++ Nat.toDigits 16 c.toNat ++ "\x7d".toList

/-- The text in quotation marks, what cannot be seen in it escaped. -/
def quoted (s : Text) : Text := '"' :: s.flatMap escapeChar ++ ['"']

end Synopsis
