import Synopsis.Text.Basic

namespace Synopsis

/-!
# JSON values

A value keeps what its text says: a number its digits, a string its escaped surrogates.  What a
value means is decided by whoever asks for it, so values that nobody asks for may hold numbers of
any size and strings that are no text.

* `StringPiece`, `JsonString` — strings, with `JsonString.text?` for those that are text;
* `Numeral` — numbers as written, with `Numeral.word?` for those that fit into 64 bits;
* `Json` — values.
-/

/-- A piece of a JSON string. -/
inductive StringPiece where
  /-- A character, written as such or escaped. -/
  | char (c : Char)
  /-- One half of a surrogate pair, which can only be written escaped. -/
  | surrogate (unit : Nat)
  deriving Repr, DecidableEq

/-- A JSON string as it was written. -/
abbrev JsonString := List StringPiece

/-- Whether the unit is the first half of a surrogate pair. -/
def isHighSurrogate (unit : Nat) : Bool := 0xD800 ≤ unit && unit ≤ 0xDBFF

/-- Whether the unit is the second half of a surrogate pair. -/
def isLowSurrogate (unit : Nat) : Bool := 0xDC00 ≤ unit && unit ≤ 0xDFFF

/-- The character that a surrogate pair stands for. -/
def pairedChar (high low : Nat) : Char :=
  Char.ofNat (0x10000 + (high - 0xD800) * 0x400 + (low - 0xDC00))

/-- The text of a JSON string, if each of its surrogates is half of a pair. -/
def JsonString.text? : JsonString → Option Text
  | [] => some []
  | .char c :: r => (text? r).map (c :: ·)
  | .surrogate high :: .surrogate low :: r =>
    if isHighSurrogate high && isLowSurrogate low then
      (text? r).map (pairedChar high low :: ·)
    else none
  | .surrogate _ :: _ => none

/-- The JSON string of a text. -/
def JsonString.ofText (s : Text) : JsonString := s.map .char

/-- A text is the text of its JSON string. -/
theorem JsonString.text?_ofText (s : Text) : (ofText s).text? = some s := by
  induction s with
  | nil => rfl
  | cons c r ih => simpa [ofText, text?] using ih

/-- A number as it was written. -/
structure Numeral where
  /-- Whether a minus sign stands in front. -/
  negative : Bool
  /-- The digits before the point. -/
  integer : Text
  /-- The digits after the point, if there is one. -/
  fraction : Option Text
  /-- The exponent, if there is one: whether a minus sign stands in front, and its digits. -/
  exponent : Option (Bool × Text)
  deriving Repr, DecidableEq

/-- The first number that takes more than 64 bits. -/
def wordLimit : Nat := UInt64.size

/-- The value of a number that is written with digits alone and fits into 64 bits. -/
def Numeral.word? (n : Numeral) : Option Nat :=
  if n.negative || n.fraction.isSome || n.exponent.isSome then none
  else some (Nat.ofDigitChars 10 n.integer 0) |>.filter (· < wordLimit)

/-- The numeral of a number. -/
def Numeral.ofNat (n : Nat) : Numeral := ⟨false, decimal n, none, none⟩

/-- A number of 64 bits is the value of its numeral. -/
theorem Numeral.word?_ofNat {n : Nat} (h : n < wordLimit) : (ofNat n).word? = some n := by
  simp [word?, ofNat, ofDigitChars_decimal, h]

/-- A JSON value. -/
inductive Json where
  | null
  | bool (b : Bool)
  | number (n : Numeral)
  | string (s : JsonString)
  | array (items : List Json)
  | object (members : List (JsonString × Json))
  deriving Repr

end Synopsis
