import Synopsis.Json.Basic

namespace Synopsis

/-!
# JSON tokens

* `Token` — the words and signs of JSON;
* `Token.text` — how a token is written;
* `string?`, `numeral?`, `token?` — the token at the start of a text;
* `tokens?` — the tokens of a text; only spaces, tabs, line feeds and carriage returns may stand
  between them.
-/

/-- A word or sign of JSON. -/
inductive Token where
  | openArray
  | closeArray
  | openObject
  | closeObject
  | colon
  | comma
  | null
  | bool (b : Bool)
  | number (n : Numeral)
  | string (s : JsonString)
  deriving Repr, DecidableEq

/-! ### Strings -/

/-- The value of a hexadecimal digit of either case. -/
def hexValue? (c : Char) : Option Nat :=
  if '0' ≤ c ∧ c ≤ '9' then some (c.toNat - '0'.toNat)
  else if 'a' ≤ c ∧ c ≤ 'f' then some (c.toNat - 'a'.toNat + 10)
  else if 'A' ≤ c ∧ c ≤ 'F' then some (c.toNat - 'A'.toNat + 10)
  else none

/-- The piece that four hexadecimal digits stand for. -/
def escapedUnit? (a b c d : Char) : Option StringPiece := do
  let unit := (((← hexValue? a) * 16 + (← hexValue? b)) * 16 + (← hexValue? c)) * 16
    + (← hexValue? d)
  return if isHighSurrogate unit || isLowSurrogate unit then .surrogate unit
    else .char (Char.ofNat unit)

/-- The character that a letter stands for after a backslash. -/
def escapedChar? : Char → Option Char
  | '"' => some '"'
  | '\\' => some '\\'
  | '/' => some '/'
  | 'b' => some '\x08'
  | 'f' => some '\x0c'
  | 'n' => some '\n'
  | 'r' => some '\r'
  | 't' => some '\t'
  | _ => none

/-- The rest of a string after its opening quotation mark, and what follows the string.  Control
    characters must be escaped. -/
def string? : Text → Option (JsonString × Text)
  | [] => none
  | '"' :: r => some ([], r)
  | '\\' :: 'u' :: a :: b :: c :: d :: r => do
    let piece ← escapedUnit? a b c d
    let (s, rest) ← string? r
    return (piece :: s, rest)
  | '\\' :: c :: r => do
    let escaped ← escapedChar? c
    let (s, rest) ← string? r
    return (.char escaped :: s, rest)
  | c :: r =>
    if c.toNat < 0x20 ∨ c = '\\' then none
    else do
      let (s, rest) ← string? r
      return (.char c :: s, rest)

/-- What follows a string is shorter than what the string was read from. -/
theorem length_of_string? {s rest : Text} {p : JsonString} (h : string? s = some (p, rest)) :
    rest.length < s.length := by
  fun_induction string? s generalizing p rest with
  | case1 => cases h
  | case2 r =>
    simp only [Option.some.injEq, Prod.mk.injEq] at h
    simp [h.2]
  | case3 a b c d r ih =>
    simp only [Option.bind_eq_bind, Option.bind_eq_some_iff, Option.pure_def, Option.some.injEq,
      Prod.mk.injEq] at h
    obtain ⟨_, _, ⟨p', rest'⟩, hr, _, rfl⟩ := h
    have := ih hr
    simp only [List.length_cons]
    omega
  | case4 c r _ ih =>
    simp only [Option.bind_eq_bind, Option.bind_eq_some_iff, Option.pure_def, Option.some.injEq,
      Prod.mk.injEq] at h
    obtain ⟨_, _, ⟨p', rest'⟩, hr, _, rfl⟩ := h
    have := ih hr
    simp only [List.length_cons]
    omega
  | case5 => cases h
  | case6 c r _ _ _ _ ih =>
    simp only [Option.bind_eq_bind, Option.bind_eq_some_iff, Option.pure_def, Option.some.injEq,
      Prod.mk.injEq] at h
    obtain ⟨⟨p', rest'⟩, hr, _, rfl⟩ := h
    have := ih hr
    simp only [List.length_cons]
    omega

/-! ### Numbers -/

/-- The digits at the start of a text, at least one, and what follows them. -/
def digits? (s : Text) : Option (Text × Text) :=
  let digits := s.takeWhile Char.isDigit
  if digits = [] then none else some (digits, s.dropWhile Char.isDigit)

/-- What follows digits is shorter than what they were read from. -/
theorem length_of_digits? {s ds rest : Text} (h : digits? s = some (ds, rest)) :
    rest.length < s.length := by
  simp only [digits?, Option.ite_none_left_eq_some, Option.some.injEq, Prod.mk.injEq] at h
  obtain ⟨hne, -, rfl⟩ := h
  have hs := congrArg List.length (List.takeWhile_append_dropWhile (p := Char.isDigit) (l := s))
  have := List.length_pos_iff.2 hne
  rw [List.length_append] at hs
  omega

/-- The digits before the point: a single zero, or digits of which the first is not zero. -/
def integer? : Text → Option (Text × Text)
  | '0' :: r => some (['0'], r)
  | s => digits? s

/-- What follows the digits before the point is shorter than what they were read from. -/
theorem length_of_integer? {s ds rest : Text} (h : integer? s = some (ds, rest)) :
    rest.length < s.length := by
  unfold integer? at h
  split at h
  · simp only [Option.some.injEq, Prod.mk.injEq] at h
    simp [h.2]
  · exact length_of_digits? h

/-- The digits after the point, if there is a point. -/
def fraction? : Text → Option (Option Text × Text)
  | '.' :: r => (digits? r).map fun (ds, rest) => (some ds, rest)
  | s => some (none, s)

/-- What follows a fraction is no longer than what it was read from. -/
theorem length_of_fraction? {s rest : Text} {f : Option Text} (h : fraction? s = some (f, rest)) :
    rest.length ≤ s.length := by
  unfold fraction? at h
  split at h
  · obtain ⟨⟨ds, r⟩, hd, hr⟩ := Option.map_eq_some_iff.1 h
    have := length_of_digits? hd
    simp only [Prod.mk.injEq] at hr
    simp only [List.length_cons]
    grind
  · simp_all

/-- The digits of an exponent after its letter, with their sign. -/
def signedDigits? : Text → Option ((Bool × Text) × Text)
  | '-' :: r => (digits? r).map fun (ds, rest) => ((true, ds), rest)
  | '+' :: r => (digits? r).map fun (ds, rest) => ((false, ds), rest)
  | s => (digits? s).map fun (ds, rest) => ((false, ds), rest)

/-- What follows an exponent's digits is shorter than what they were read from. -/
theorem length_of_signedDigits? {s rest : Text} {e : Bool × Text}
    (h : signedDigits? s = some (e, rest)) : rest.length < s.length := by
  unfold signedDigits? at h
  split at h <;> obtain ⟨⟨ds, r⟩, hd, hr⟩ := Option.map_eq_some_iff.1 h <;>
    have := length_of_digits? hd <;> grind

/-- The exponent, if there is one. -/
def exponent? : Text → Option (Option (Bool × Text) × Text)
  | 'e' :: r | 'E' :: r => (signedDigits? r).map fun (e, rest) => (some e, rest)
  | s => some (none, s)

/-- What follows an exponent is no longer than what it was read from. -/
theorem length_of_exponent? {s rest : Text} {e : Option (Bool × Text)}
    (h : exponent? s = some (e, rest)) : rest.length ≤ s.length := by
  unfold exponent? at h
  split at h
  · obtain ⟨⟨ds, r⟩, hd, hr⟩ := Option.map_eq_some_iff.1 h
    have := length_of_signedDigits? hd
    simp only [Prod.mk.injEq] at hr
    simp only [List.length_cons]
    grind
  · obtain ⟨⟨ds, r⟩, hd, hr⟩ := Option.map_eq_some_iff.1 h
    have := length_of_signedDigits? hd
    simp only [Prod.mk.injEq] at hr
    simp only [List.length_cons]
    grind
  · simp_all

/-- The part of a number after its sign. -/
def magnitude? (negative : Bool) (s : Text) : Option (Numeral × Text) := do
  let (integer, s) ← integer? s
  let (fraction, s) ← fraction? s
  let (exponent, s) ← exponent? s
  return (⟨negative, integer, fraction, exponent⟩, s)

/-- The number at the start of a text, and what follows it. -/
def numeral? : Text → Option (Numeral × Text)
  | '-' :: r => magnitude? true r
  | s => magnitude? false s

/-- What follows a number is shorter than what it was read from. -/
theorem length_of_magnitude? {s rest : Text} {negative : Bool} {n : Numeral}
    (h : magnitude? negative s = some (n, rest)) : rest.length < s.length := by
  simp only [magnitude?, Option.bind_eq_bind, Option.bind_eq_some_iff, Option.pure_def,
    Option.some.injEq, Prod.mk.injEq] at h
  obtain ⟨⟨i, s₁⟩, hi, ⟨f, s₂⟩, hf, ⟨e, s₃⟩, he, -, rfl⟩ := h
  exact Nat.lt_of_le_of_lt (length_of_exponent? he)
    (Nat.lt_of_le_of_lt (length_of_fraction? hf) (length_of_integer? hi))

/-- What follows a number is shorter than what it was read from. -/
theorem length_of_numeral? {s rest : Text} {n : Numeral} (h : numeral? s = some (n, rest)) :
    rest.length < s.length := by
  unfold numeral? at h
  split at h
  · have := length_of_magnitude? h
    simp only [List.length_cons]
    omega
  · exact length_of_magnitude? h

/-! ### Tokens -/

/-- The token at the start of a text, and what follows it. -/
def token? : Text → Option (Token × Text)
  | '[' :: r => some (.openArray, r)
  | ']' :: r => some (.closeArray, r)
  | '\x7b' :: r => some (.openObject, r)
  | '\x7d' :: r => some (.closeObject, r)
  | ':' :: r => some (.colon, r)
  | ',' :: r => some (.comma, r)
  | 'n' :: 'u' :: 'l' :: 'l' :: r => some (.null, r)
  | 't' :: 'r' :: 'u' :: 'e' :: r => some (.bool true, r)
  | 'f' :: 'a' :: 'l' :: 's' :: 'e' :: r => some (.bool false, r)
  | '"' :: r => (string? r).map fun (s, rest) => (.string s, rest)
  | s => (numeral? s).map fun (n, rest) => (.number n, rest)

/-- What follows a token is shorter than what it was read from. -/
theorem length_of_token? {s rest : Text} {t : Token} (h : token? s = some (t, rest)) :
    rest.length < s.length := by
  unfold token? at h
  split at h
  case h_10 =>
    obtain ⟨⟨p, r⟩, hp, hr⟩ := Option.map_eq_some_iff.1 h
    have := length_of_string? hp
    simp only [Prod.mk.injEq] at hr
    simp only [List.length_cons]
    grind
  case h_11 =>
    obtain ⟨⟨n, r⟩, hn, hr⟩ := Option.map_eq_some_iff.1 h
    have := length_of_numeral? hn
    simp only [Prod.mk.injEq] at hr
    grind
  all_goals
    simp only [Option.some.injEq, Prod.mk.injEq] at h
    simp only [← h.2, List.length_cons]
    omega

/-- Whether the character may stand between tokens. -/
def isJsonSpace (c : Char) : Bool := c = ' ' || c = '\t' || c = '\n' || c = '\r'

/-- The tokens of a text. -/
def tokens? (s : Text) : Option (List Token) :=
  match s with
  | [] => some []
  | c :: r =>
    if isJsonSpace c then tokens? r
    else
      match h : token? (c :: r) with
      | some (t, rest) =>
        have := length_of_token? h
        (tokens? rest).map (t :: ·)
      | none => none
termination_by s.length
decreasing_by
  · exact Nat.lt_succ_self _
  · exact this

end Synopsis
