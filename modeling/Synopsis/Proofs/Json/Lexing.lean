import Mathlib.Data.List.Chain
import Synopsis.Json.Printer

namespace Synopsis

/-!
# Tokens are read back

What is written for a token is read as that token, and nothing more is read than was written.
Only a number has no end of its own: it ends where no digit, point or exponent follows.

* `StringPiece.IsProper`, `Numeral.IsProper`, `Token.IsProper` — what JSON has a spelling for;
* `string?_render`, `numeral?_render`, `token?_text` — strings, numbers and tokens are read back,
  whatever follows them;
* `tokens?_flatMap_text` — and so are tokens in a row in which no two numbers touch.
-/

/-! ### Strings -/

/-- Whether the piece has a spelling: every character has one, and so has each half of a
    surrogate pair. -/
def StringPiece.IsProper : StringPiece → Prop
  | .char _ => True
  | .surrogate unit => (isHighSurrogate unit || isLowSurrogate unit) = true

/-- A hexadecimal digit has the value for which it was written. -/
theorem hexValue?_digitChar {d : Nat} (h : d < 16) : hexValue? d.digitChar = some d := by
  have hall : ∀ d < 16, hexValue? (Nat.digitChar d) = some d := by decide
  exact hall d h

/-- The four digits of a number of 16 bits. -/
theorem fourHexDigits_eq {n : Nat} (h : n < 0x10000) :
    fourHexDigits n = [(n / 0x1000).digitChar, (n / 0x100 % 16).digitChar,
      (n / 0x10 % 16).digitChar, (n % 16).digitChar] := by
  have hlast : ∀ m < 16, Nat.toDigits 16 m = [m.digitChar] := fun m hm =>
    Nat.toDigits_of_lt_base hm
  have hmore : ∀ m, 16 ≤ m →
      Nat.toDigits 16 m = Nat.toDigits 16 (m / 16) ++ [(m % 16).digitChar] := fun m hm =>
    Nat.toDigits_of_base_le (by decide) hm
  have hzero : Nat.digitChar 0 = '0' := rfl
  rw [fourHexDigits]
  -- There are as many zeros in front as digits are missing.
  rcases Nat.lt_or_ge n 0x10 with h₁ | h₁
  · have hn : n / 0x1000 = 0 ∧ n / 0x100 = 0 ∧ n / 0x10 = 0 ∧ n % 16 = n := by omega
    simp [hlast n h₁, hn, hzero]
  rcases Nat.lt_or_ge n 0x100 with h₂ | h₂
  · have hn : n / 0x1000 = 0 ∧ n / 0x100 = 0 ∧ n / 0x10 % 16 = n / 16 := by omega
    simp [hmore n h₁, hlast (n / 16) (by omega), hn, hzero]
  rcases Nat.lt_or_ge n 0x1000 with h₃ | h₃
  · have hn : n / 0x1000 = 0 ∧ n / 0x100 % 16 = n / 16 / 16 := by omega
    simp [hmore n h₁, hmore (n / 16) (by omega), hlast (n / 16 / 16) (by omega), hn, hzero]
  · have hn : n / 0x1000 = n / 16 / 16 / 16 ∧ n / 0x100 = n / 16 / 16 := by omega
    simp [hmore n h₁, hmore (n / 16) (by omega), hmore (n / 16 / 16) (by omega),
      hlast (n / 16 / 16 / 16) (by omega), hn]

/-- Four hexadecimal digits are read as the unit for which they were written. -/
theorem string?_fourHexDigits {n : Nat} (h : n < 0x10000) (r : Text) :
    string? ('\\' :: 'u' :: (fourHexDigits n ++ r)) = (string? r).map fun (s, rest) =>
      ((if isHighSurrogate n || isLowSurrogate n then .surrogate n
        else .char (Char.ofNat n)) :: s, rest) := by
  have hunit : (((n / 0x1000) * 16 + n / 0x100 % 16) * 16 + n / 0x10 % 16) * 16 + n % 16 = n := by
    omega
  rw [fourHexDigits_eq h]
  simp only [List.cons_append, List.nil_append, string?, escapedUnit?]
  rw [hexValue?_digitChar (by omega), hexValue?_digitChar (by omega),
    hexValue?_digitChar (by omega), hexValue?_digitChar (by omega)]
  simp only [Option.bind_eq_bind, Option.bind_some, Option.pure_def, hunit]
  cases string? r <;> rfl

/-- A character that needs no escape is read as itself. -/
theorem string?_cons {c : Char} (hquote : c ≠ '"') (hbackslash : c ≠ '\\')
    (hcontrol : ¬ c.toNat < 0x20) (r : Text) :
    string? (c :: r) = (string? r).map fun (s, rest) => (.char c :: s, rest) := by
  rw [string?.eq_5 _ _ hquote (fun _ _ _ _ _ hc _ => hbackslash hc)
    (fun _ _ hc _ => hbackslash hc), if_neg (by simp [hbackslash, hcontrol])]
  cases string? r <;> rfl

/-- A letter after a backslash is read as the character for which it stands. -/
theorem string?_backslash {letter c : Char} (hletter : letter ≠ 'u')
    (h : escapedChar? letter = some c) (r : Text) :
    string? ('\\' :: letter :: r) = (string? r).map fun (s, rest) => (.char c :: s, rest) := by
  rw [string?.eq_4 _ _ fun _ _ _ _ _ hu _ => hletter hu, h]
  cases string? r <;> rfl

/-- A written character is read as that character. -/
theorem string?_jsonChar (c : Char) (r : Text) :
    string? (jsonChar c ++ r) = (string? r).map fun (s, rest) => (.char c :: s, rest) := by
  unfold jsonChar
  split
  case h_8 hquote hbackslash _ _ _ _ _ =>
    split
    · rename_i hcontrol
      have hplain : (isHighSurrogate c.toNat || isLowSurrogate c.toNat) = false := by
        simp only [isHighSurrogate, isLowSurrogate, Bool.or_eq_false_iff, Bool.and_eq_false_iff,
          decide_eq_false_iff_not]
        omega
      have hunit := string?_fourHexDigits (n := c.toNat) (by omega) r
      rw [hplain] at hunit
      simpa using hunit
    · rename_i hcontrol
      exact string?_cons hquote hbackslash hcontrol r
  all_goals exact string?_backslash (by decide) rfl r

/-- A written piece is read as that piece. -/
theorem string?_text {p : StringPiece} (hp : p.IsProper) (r : Text) :
    string? (p.text ++ r) = (string? r).map fun (s, rest) => (p :: s, rest) := by
  cases p with
  | char c => exact string?_jsonChar c r
  | surrogate unit =>
    have hbound : unit < 0x10000 := by
      simp only [StringPiece.IsProper, isHighSurrogate, isLowSurrogate, Bool.or_eq_true,
        Bool.and_eq_true, decide_eq_true_eq] at hp
      omega
    have hunit := string?_fourHexDigits hbound r
    rw [show (isHighSurrogate unit || isLowSurrogate unit) = true from hp, if_pos rfl] at hunit
    exact hunit

/-- A written string is read back up to its closing quotation mark. -/
theorem string?_render {s : JsonString} (hs : ∀ p ∈ s, p.IsProper) (rest : Text) :
    string? (s.flatMap StringPiece.text ++ '"' :: rest) = some (s, rest) := by
  induction s with
  | nil => simp [string?]
  | cons p s ih =>
    rw [List.flatMap_cons, List.append_assoc, string?_text (hs p List.mem_cons_self),
      ih fun q hq => hs q (List.mem_cons_of_mem p hq)]
    rfl

/-! ### Numbers -/

/-- Whether the text is made of digits, at least one. -/
def IsDigits (s : Text) : Prop := s ≠ [] ∧ ∀ c ∈ s, c.isDigit = true

/-- The decimal digits of a number. -/
theorem isDigits_decimal (n : Nat) : IsDigits (decimal n) :=
  ⟨Nat.toDigits_ne_nil, fun _ => Nat.isDigit_of_mem_toDigits (by decide) (by decide)⟩

/-- Whether the number has a spelling: no part of it lacks digits, and no zero stands in front. -/
structure Numeral.IsProper (n : Numeral) : Prop where
  /-- The digits before the point are a single zero or do not begin with one. -/
  integer : n.integer = ['0'] ∨ IsDigits n.integer ∧ n.integer.head? ≠ some '0'
  /-- There are digits after the point. -/
  fraction : ∀ ds, n.fraction = some ds → IsDigits ds
  /-- There are digits in the exponent. -/
  exponent : ∀ e, n.exponent = some e → IsDigits e.2

/-- Whether a number that ends here is not continued by the text. -/
def EndsNumeral (rest : Text) : Prop :=
  ∀ c, rest.head? = some c → c.isDigit = false ∧ c ≠ '.' ∧ c ≠ 'e' ∧ c ≠ 'E'

theorem endsNumeral_nil : EndsNumeral [] := by simp [EndsNumeral]

/-- Digits are read up to the first character that is none. -/
theorem digits?_append {ds rest : Text} (hds : IsDigits ds)
    (hrest : ∀ c, rest.head? = some c → c.isDigit = false) :
    digits? (ds ++ rest) = some (ds, rest) := by
  have hstop : rest.takeWhile Char.isDigit = [] ∧ rest.dropWhile Char.isDigit = rest := by
    cases rest with
    | nil => exact ⟨rfl, rfl⟩
    | cons c r => simp [hrest c rfl]
  rw [digits?, List.takeWhile_append_of_pos hds.2, List.dropWhile_append_of_pos hds.2, hstop.1,
    hstop.2, List.append_nil]
  simp [hds.1]

theorem Numeral.IsProper.integer?_append {n : Numeral} (hn : n.IsProper) {rest : Text}
    (hrest : ∀ c, rest.head? = some c → c.isDigit = false) :
    integer? (n.integer ++ rest) = some (n.integer, rest) := by
  rcases hn.integer with hzero | ⟨hdigits, hhead⟩
  · rw [hzero]
    rfl
  · have h := digits?_append hdigits hrest
    unfold integer?
    split
    · -- A zero in front would be the whole number.
      rename_i r heq
      cases hi : n.integer with
      | nil => exact absurd hi hdigits.1
      | cons c ds =>
        rw [hi, List.cons_append, List.cons.injEq] at heq
        rw [hi, heq.1] at hhead
        exact absurd rfl hhead
    · exact h

/-- The written fraction. -/
def Numeral.fractionText (n : Numeral) : Text :=
  match n.fraction with
  | some ds => '.' :: ds
  | none => []

/-- The written exponent. -/
def Numeral.exponentText (n : Numeral) : Text :=
  match n.exponent with
  | some (true, ds) => 'e' :: '-' :: ds
  | some (false, ds) => 'e' :: ds
  | none => []

/-- No digit stands at the start of a fraction, an exponent or of what may follow a number. -/
theorem Numeral.isDigit_head?_exponentText (n : Numeral) {rest : Text} (hrest : EndsNumeral rest) :
    ∀ c, (n.exponentText ++ rest).head? = some c → c.isDigit = false ∧ c ≠ '.' := by
  intro c hc
  unfold exponentText at hc
  split at hc
  · simp only [List.cons_append, List.head?_cons, Option.some.injEq] at hc
    subst hc
    decide
  · simp only [List.cons_append, List.head?_cons, Option.some.injEq] at hc
    subst hc
    decide
  · exact ⟨(hrest c hc).1, (hrest c hc).2.1⟩

/-- The digits of an exponent that has no sign are read up to the first character that is none. -/
theorem signedDigits?_append {ds rest : Text} (hds : IsDigits ds)
    (hrest : ∀ c, rest.head? = some c → c.isDigit = false) :
    signedDigits? (ds ++ rest) = some ((false, ds), rest) := by
  have hread := digits?_append hds hrest
  have hhead : ∀ c r, ds ++ rest = c :: r → c.isDigit = true := by
    intro c r heq
    cases ds with
    | nil => exact absurd rfl hds.1
    | cons d ds =>
      rw [List.cons_append, List.cons.injEq] at heq
      exact heq.1 ▸ hds.2 d List.mem_cons_self
  unfold signedDigits?
  split
  · rename_i r heq
    exact absurd (hhead '-' r heq) (by decide)
  · rename_i r heq
    exact absurd (hhead '+' r heq) (by decide)
  · rw [hread]
    rfl

theorem Numeral.IsProper.exponent?_append {n : Numeral} (hn : n.IsProper) {rest : Text}
    (hrest : EndsNumeral rest) :
    exponent? (n.exponentText ++ rest) = some (n.exponent, rest) := by
  have hdigit : ∀ c, rest.head? = some c → c.isDigit = false := fun c hc => (hrest c hc).1
  unfold exponentText
  split
  · rename_i ds he
    simp [exponent?, signedDigits?, digits?_append (hn.exponent _ he) hdigit, he]
  · rename_i ds he
    simp [exponent?, signedDigits?_append (hn.exponent _ he) hdigit, he]
  · rename_i he
    rw [List.nil_append, he]
    unfold exponent?
    split
    · exact absurd rfl (hrest 'e' rfl).2.2.1
    · exact absurd rfl (hrest 'E' rfl).2.2.2
    · rfl

theorem Numeral.IsProper.fraction?_append {n : Numeral} (hn : n.IsProper) {rest : Text}
    (hrest : ∀ c, rest.head? = some c → c.isDigit = false ∧ c ≠ '.') :
    fraction? (n.fractionText ++ rest) = some (n.fraction, rest) := by
  unfold fractionText
  split
  · rename_i ds hf
    simp [fraction?, digits?_append (hn.fraction _ hf) fun c hc => (hrest c hc).1, hf]
  · rename_i hf
    rw [List.nil_append, hf]
    unfold fraction?
    split
    · exact absurd rfl (hrest '.' rfl).2
    · rfl

theorem Numeral.isDigit_head?_fractionText (n : Numeral) {rest : Text}
    (hrest : ∀ c, rest.head? = some c → c.isDigit = false) :
    ∀ c, (n.fractionText ++ rest).head? = some c → c.isDigit = false := by
  intro c hc
  unfold fractionText at hc
  split at hc
  · simp only [List.cons_append, List.head?_cons, Option.some.injEq] at hc
    subst hc
    rfl
  · exact hrest c hc

/-- The digits before the point begin with a digit. -/
theorem Numeral.IsProper.exists_integer_eq_cons {n : Numeral} (hn : n.IsProper) :
    ∃ c ds, n.integer = c :: ds ∧ c.isDigit = true := by
  rcases hn.integer with hzero | ⟨hdigits, -⟩
  · exact ⟨'0', [], hzero, rfl⟩
  · obtain ⟨c, ds, hds⟩ := List.exists_cons_of_ne_nil hdigits.1
    exact ⟨c, ds, hds, hdigits.2 c (by simp [hds])⟩

/-- A written number is read back if what follows does not continue it. -/
theorem numeral?_render {n : Numeral} (hn : n.IsProper) {rest : Text} (hrest : EndsNumeral rest) :
    numeral? (n.render ++ rest) = some (n, rest) := by
  have hexponent := n.isDigit_head?_exponentText hrest
  have hfraction := n.isDigit_head?_fractionText fun c hc => (hexponent c hc).1
  have hmagnitude : magnitude? n.negative
      (n.integer ++ (n.fractionText ++ (n.exponentText ++ rest))) = some (n, rest) := by
    simp only [magnitude?, Option.bind_eq_bind, hn.integer?_append hfraction, Option.bind_some,
      hn.fraction?_append hexponent, hn.exponent?_append hrest, Option.pure_def]
  have hrender : n.render
      = (if n.negative then ['-'] else []) ++ n.integer ++ n.fractionText ++ n.exponentText := rfl
  rw [hrender, List.append_assoc, List.append_assoc, List.append_assoc]
  cases hneg : n.negative with
  | true =>
    rw [hneg] at hmagnitude
    exact hmagnitude
  | false =>
    rw [hneg] at hmagnitude
    -- The first digit is no minus sign.
    obtain ⟨c, ds, hds, hc⟩ := hn.exists_integer_eq_cons
    rw [hds] at hmagnitude ⊢
    simp only [Bool.false_eq_true, if_false, List.nil_append, List.cons_append]
    unfold numeral?
    split
    · rename_i heq
      rw [(List.cons.inj heq).1] at hc
      cases hc
    · exact hmagnitude

/-! ### Tokens -/

/-- Whether the token has a spelling. -/
def Token.IsProper : Token → Prop
  | .number n => n.IsProper
  | .string s => ∀ p ∈ s, p.IsProper
  | _ => True

/-- Whether the token is a number. -/
def Token.isNumber : Token → Bool
  | .number _ => true
  | _ => false

/-- Where a number may begin, a number is read. -/
theorem token?_of_isDigit {c : Char} (hc : c = '-' ∨ c.isDigit = true) (r : Text) :
    token? (c :: r) = (numeral? (c :: r)).map fun (n, rest) => (.number n, rest) := by
  unfold token?
  split
  case h_11 => rfl
  all_goals
    rename_i heq
    rw [(List.cons.inj heq).1] at hc
    exact absurd hc (by decide)

/-- A written token is read as that token, if it is no number that goes on. -/
theorem token?_text {t : Token} (ht : t.IsProper) {rest : Text}
    (hrest : t.isNumber = true → EndsNumeral rest) : token? (t.text ++ rest) = some (t, rest) := by
  cases t with
  | number n =>
    have hread := numeral?_render ht (hrest rfl)
    obtain ⟨c, ds, hds, hc⟩ : ∃ c ds, n.render ++ rest = c :: ds ∧ (c = '-' ∨ c.isDigit = true) := by
      obtain ⟨c, ds, hds, hc⟩ := ht.exists_integer_eq_cons
      unfold Numeral.render
      cases n.negative with
      | true => exact ⟨'-', _, rfl, Or.inl rfl⟩
      | false => exact ⟨c, _, by rw [hds]; rfl, Or.inr hc⟩
    show token? (n.render ++ rest) = _
    rw [hds] at hread ⊢
    rw [token?_of_isDigit hc, hread]
    rfl
  | string s =>
    have hread := string?_render ht rest
    show token? ('"' :: s.flatMap StringPiece.text ++ ['"'] ++ rest) = _
    rw [List.append_assoc, List.cons_append, token?]
    show (string? (s.flatMap StringPiece.text ++ '"' :: rest)).map _ = _
    rw [hread]
    rfl
  | bool b => cases b <;> rfl
  | _ => rfl

/-- No token begins with white space. -/
theorem token?_of_isJsonSpace {c : Char} (hc : isJsonSpace c = true) (r : Text) :
    token? (c :: r) = none := by
  simp only [isJsonSpace, Bool.or_eq_true, decide_eq_true_eq] at hc
  rcases hc with ((rfl | rfl) | rfl) | rfl <;>
    simp [token?, numeral?, magnitude?, integer?, digits?]

/-- The tokens of a text are its first one and those of what follows it. -/
theorem tokens?_of_token? {s rest : Text} {t : Token} (h : token? s = some (t, rest)) :
    tokens? s = (tokens? rest).map (t :: ·) := by
  cases s with
  | nil => cases h
  | cons c r =>
    have hc : ¬ isJsonSpace c = true := by
      intro hc
      rw [token?_of_isJsonSpace hc] at h
      cases h
    rw [tokens?, if_neg hc]
    split
    · rename_i t' rest' h'
      rw [h] at h'
      cases h'
      rfl
    · rename_i h'
      rw [h] at h'
      cases h'

/-- A number ends where another token begins, unless that is a number too. -/
theorem endsNumeral_text_append {t : Token} (ht : t.isNumber = false) (rest : Text) :
    EndsNumeral (t.text ++ rest) := by
  intro c hc
  cases t with
  | number n => cases ht
  | bool b => cases b <;> cases hc <;> decide
  | _ => cases hc; decide

/-- **Written tokens are read back.**  Without white space between them they are told apart,
    unless two numbers touch. -/
theorem tokens?_flatMap_text {ts : List Token} (hproper : ∀ t ∈ ts, t.IsProper)
    (hapart : ts.IsChain fun t u => t.isNumber = true → u.isNumber = false) :
    tokens? (ts.flatMap Token.text) = some ts := by
  induction ts with
  | nil => rw [List.flatMap_nil, tokens?]
  | cons t ts ih =>
    have hrest : t.isNumber = true → EndsNumeral (ts.flatMap Token.text) := by
      intro ht
      cases ts with
      | nil => exact endsNumeral_nil
      | cons u ts => exact endsNumeral_text_append ((List.isChain_cons_cons.1 hapart).1 ht) _
    rw [List.flatMap_cons, tokens?_of_token? (token?_text (hproper t List.mem_cons_self) hrest),
      ih (fun u hu => hproper u (List.mem_cons_of_mem t hu)) hapart.tail]
    rfl

-- The end of a number is the end of the text, a sign or white space.
example : tokens? "[1,2.5e3 ]".toList = some [.openArray, .number ⟨false, ['1'], none, none⟩, .comma,
    .number ⟨false, ['2'], some ['5'], some (false, ['3'])⟩, .closeArray] := by cbv

end Synopsis
