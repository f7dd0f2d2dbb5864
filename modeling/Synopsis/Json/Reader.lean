import Synopsis.Json.Token

namespace Synopsis

/-!
# Reading JSON

The reader takes one token after the other and keeps a stack of the arrays and objects that are
still open.

* `Frame` — an array or object that is still open;
* `Reader` — what has been read, and what may come next;
* `Reader.step` — the reader after one more token;
* `Json.parse?` — the value of a text.
-/

/-- An array or object that is still open, with its latest part first. -/
inductive Frame where
  /-- An array, with the items before the one being read. -/
  | item (before : List Json)
  /-- An object, with the members before the one being read and the key of that one. -/
  | member (before : List (JsonString × Json)) (key : JsonString)

/-- What has been read, and what may come next. -/
inductive Reader where
  /-- A value comes next. -/
  | value (stack : List Frame)
  /-- An array was opened: an item comes next, or its end. -/
  | firstItem (stack : List Frame)
  /-- An object was opened: a key comes next, or its end. -/
  | firstKey (stack : List Frame)
  /-- A further key of an object comes next. -/
  | key (before : List (JsonString × Json)) (stack : List Frame)
  /-- A colon comes next. -/
  | colon (before : List (JsonString × Json)) (key : JsonString) (stack : List Frame)
  /-- A value was read: a comma comes next, or the end of the array or object around it. -/
  | after (v : Json) (stack : List Frame)

/-- The reader after a token that begins a value. -/
def Reader.begin (stack : List Frame) : Token → Option Reader
  | .null => some (.after .null stack)
  | .bool b => some (.after (.bool b) stack)
  | .number n => some (.after (.number n) stack)
  | .string s => some (.after (.string s) stack)
  | .openArray => some (.firstItem stack)
  | .openObject => some (.firstKey stack)
  | _ => none

/-- The reader after one more token; none if the token may not come next. -/
def Reader.step : Reader → Token → Option Reader
  | .value stack, t => begin stack t
  | .firstItem stack, .closeArray => some (.after (.array []) stack)
  | .firstItem stack, t => begin (.item [] :: stack) t
  | .firstKey stack, .closeObject => some (.after (.object []) stack)
  | .firstKey stack, .string k => some (.colon [] k stack)
  | .key before stack, .string k => some (.colon before k stack)
  | .colon before k stack, .colon => some (.value (.member before k :: stack))
  | .after v (.item before :: stack), .comma => some (.value (.item (v :: before) :: stack))
  | .after v (.item before :: stack), .closeArray =>
    some (.after (.array (v :: before).reverse) stack)
  | .after v (.member before k :: stack), .comma => some (.key ((k, v) :: before) stack)
  | .after v (.member before k :: stack), .closeObject =>
    some (.after (.object ((k, v) :: before).reverse) stack)
  | _, _ => none

/-- The value that was read, if it is complete. -/
def Reader.result? : Reader → Option Json
  | .after v [] => some v
  | _ => none

/-- The value of a list of tokens. -/
def Json.ofTokens? (ts : List Token) : Option Json :=
  (ts.foldlM Reader.step (.value [])).bind Reader.result?

/-- The value of a text. -/
def Json.parse? (s : Text) : Option Json := (tokens? s).bind ofTokens?

end Synopsis
