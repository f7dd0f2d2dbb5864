import Synopsis.Json.Basic

namespace Synopsis

/-!
# Records in JSON

A record is written as an object, or as an array of its fields in order.

* `Json.ofText`, `Json.ofTexts`, `Json.ofNat`, `Json.ofFields` — the value of a thing;
* `Json.text?`, `Json.word?`, `Json.flag?`, `Json.texts?` — the meaning of a value;
* `objectFields?`, `arrayFields` — the values of a record's fields, in order;
* `required`, `optional`, `withDefault` — the meaning of a field that may be missing.
-/

/-- A JSON string of a text. -/
def Json.ofText (s : Text) : Json := .string (.ofText s)

/-- A JSON array of texts. -/
def Json.ofTexts (ss : List Text) : Json := .array (ss.map ofText)

/-- A JSON number. -/
def Json.ofNat (n : Nat) : Json := .number (.ofNat n)

/-- A JSON object of named values. -/
def Json.ofFields (names : List Text) (values : List Json) : Json :=
  .object ((names.map JsonString.ofText).zip values)

/-- The text that a value is. -/
def Json.text? : Json → Option Text
  | .string s => s.text?
  | _ => none

/-- The number of 64 bits that a value is. -/
def Json.word? : Json → Option Nat
  | .number n => n.word?
  | _ => none

/-- The truth value that a value is. -/
def Json.flag? : Json → Option Bool
  | .bool b => some b
  | _ => none

/-- The texts that the items of an array are. -/
def Json.texts? : Json → Option (List Text)
  | .array items => items.mapM text?
  | _ => none

/-- The members of an object with their keys as text. -/
def textMembers? (members : List (JsonString × Json)) : Option (List (Text × Json)) :=
  members.mapM fun (k, v) => k.text?.map (·, v)

/-- Whether each of the names is the key of at most one member. -/
def areUnrepeated (names : List Text) (members : List (Text × Json)) : Bool :=
  names.all fun name => (members.filter (·.1 = name)).length ≤ 1

/-- The values that the members of an object give to the named fields.  Other members do not
    matter, as long as their keys are text. -/
def objectFields? (names : List Text) (members : List (JsonString × Json)) :
    Option (List (Option Json)) := do
  let members ← textMembers? members
  if areUnrepeated names members then some (names.map fun name => members.lookup name) else none

/-- The values that the items of an array give to as many fields as there are names. -/
def arrayFields (names : List Text) (items : List Json) : List (Option Json) :=
  (List.range names.length).map (items[·]?)

/-- The meaning of a field that must be given. -/
def required (read : Json → Option α) (field : Option Json) : Option α := field.bind read

/-- The meaning of a field that may be missing or null. -/
def optional (read : Json → Option α) : Option Json → Option (Option α)
  | none | some .null => some none
  | some v => (read v).map some

/-- The meaning of a field that has a value if it is missing. -/
def withDefault (value : α) (read : Json → Option α) : Option Json → Option α
  | none => some value
  | some v => read v

end Synopsis
