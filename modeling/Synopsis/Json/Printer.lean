import Synopsis.Json.Token

namespace Synopsis

/-!
# Writing JSON

* `Token.text` — how a token is written;
* `Json.tokens` — the tokens of a value;
* `Json.render` — a value on one line, without spaces between its tokens.
-/

/-- A number in hexadecimal, with zeros in front up to four digits. -/
def fourHexDigits (n : Nat) : Text :=
  let digits := Nat.toDigits 16 n
  List.replicate (4 - digits.length) '0' ++ digits

/-- How a character is written in a string: control characters, quotation marks and backslashes
    with a backslash in front. -/
def jsonChar : Char → Text
  | '"' => ['\\', '"']
  | '\\' => ['\\', '\\']
  | '\x08' => ['\\', 'b']
  | '\x0c' => ['\\', 'f']
  | '\n' => ['\\', 'n']
  | '\r' => ['\\', 'r']
  | '\t' => ['\\', 't']
  | c => if c.toNat < 0x20 then '\\' :: 'u' :: fourHexDigits c.toNat else [c]

/-- How a piece of a string is written. -/
def StringPiece.text : StringPiece → Text
  | .char c => jsonChar c
  | .surrogate unit => '\\' :: 'u' :: fourHexDigits unit

/-- How a string is written. -/
def JsonString.render (s : JsonString) : Text := '"' :: s.flatMap StringPiece.text ++ ['"']

/-- How a number is written. -/
def Numeral.render (n : Numeral) : Text :=
  (if n.negative then ['-'] else []) ++ n.integer
    ++ (match n.fraction with
      | some ds => '.' :: ds
      | none => [])
    ++ (match n.exponent with
      | some (true, ds) => 'e' :: '-' :: ds
      | some (false, ds) => 'e' :: ds
      | none => [])

/-- How a token is written. -/
def Token.text : Token → Text
  | .openArray => ['[']
  | .closeArray => [']']
  | .openObject => ['\x7b']
  | .closeObject => ['\x7d']
  | .colon => [':']
  | .comma => [',']
  | .null => "null".toList
  | .bool true => "true".toList
  | .bool false => "false".toList
  | .number n => n.render
  | .string s => s.render

mutual

/-- The tokens of a value. -/
def Json.tokens : Json → List Token
  | .null => [.null]
  | .bool b => [.bool b]
  | .number n => [.number n]
  | .string s => [.string s]
  | .array items => .openArray :: itemTokens items ++ [.closeArray]
  | .object members => .openObject :: memberTokens members ++ [.closeObject]

/-- The tokens of the items of an array. -/
def Json.itemTokens : List Json → List Token
  | [] => []
  | [v] => v.tokens
  | v :: w :: rest => v.tokens ++ .comma :: itemTokens (w :: rest)

/-- The tokens of the members of an object. -/
def Json.memberTokens : List (JsonString × Json) → List Token
  | [] => []
  | [(k, v)] => .string k :: .colon :: v.tokens
  | (k, v) :: w :: rest => .string k :: .colon :: v.tokens ++ .comma :: memberTokens (w :: rest)

end

/-- A value on one line. -/
def Json.render (v : Json) : Text := v.tokens.flatMap Token.text

end Synopsis
