import Synopsis.Text.Basic

namespace Synopsis

/-!
# UTF-8

* `encode` — the bytes of a text;
* `decode?` — the text of well-formed bytes;
* `decode?_eq_some_iff` — bytes have a text exactly if they are its bytes;
* `Pending`, `decodeLossy` — the text of any bytes: each maximal part that cannot be continued
  to a character counts as one replacement character.
-/

/-- The bytes of a text. -/
def encode (s : Text) : Bytes := s.flatMap String.utf8EncodeChar

/-- The text of well-formed bytes. -/
def decode? (b : Bytes) : Option Text := (String.fromUTF8? b.toByteArray).map String.toList

/-! ### Replacing what is ill-formed -/

/-- What stands for bytes that are no character. -/
def replacement : Char := '\uFFFD'

/-- A character whose first bytes have been read. -/
structure Pending where
  /-- The payload bits read so far. -/
  code : Nat
  /-- How many bytes have to follow. -/
  missing : Nat
  /-- The least byte that may come next. -/
  least : UInt8
  /-- The greatest byte that may come next. -/
  greatest : UInt8

/-- What a byte at the start of a character makes: a whole character or the replacement, or the
    beginning of a longer one. -/
def leadByte (b : UInt8) : Text × Option Pending :=
  if b < 0x80 then ([Char.ofNat b.toNat], none)
  else if b < 0xC2 then ([replacement], none)
  else if b < 0xE0 then ([], some ⟨b.toNat - 0xC0, 1, 0x80, 0xBF⟩)
  else if b < 0xF0 then
    ([], some ⟨b.toNat - 0xE0, 2, if b = 0xE0 then 0xA0 else 0x80, if b = 0xED then 0x9F else 0xBF⟩)
  else if b < 0xF5 then
    ([], some ⟨b.toNat - 0xF0, 3, if b = 0xF0 then 0x90 else 0x80, if b = 0xF4 then 0x8F else 0xBF⟩)
  else ([replacement], none)

/-- What a byte within the allowed bounds makes of a character that was begun. -/
def Pending.next (p : Pending) (b : UInt8) : Text × Option Pending :=
  let code := p.code * 64 + (b.toNat - 0x80)
  if p.missing ≤ 1 then ([Char.ofNat code], none) else ([], some ⟨code, p.missing - 1, 0x80, 0xBF⟩)

/-- The text of bytes that follow the beginning of a character, if one was begun. -/
def decodeFrom : Option Pending → Bytes → Text
  | none, [] => []
  | some _, [] => [replacement]
  | none, b :: r => (leadByte b).1 ++ decodeFrom (leadByte b).2 r
  | some p, b :: r =>
    if p.least ≤ b ∧ b ≤ p.greatest then (p.next b).1 ++ decodeFrom (p.next b).2 r
    else replacement :: (leadByte b).1 ++ decodeFrom (leadByte b).2 r

/-- The text of any bytes, with the replacement character for what is ill-formed. -/
def decodeLossy (b : Bytes) : Text := decodeFrom none b

/-! ### Reading back -/

/-- A text is the text of its bytes. -/
theorem decode?_encode (s : Text) : decode? (encode s) = some s := by
  have h : (encode s).toByteArray.IsValidUTF8 := ⟨s, rfl⟩
  have hs : String.fromUTF8 (encode s).toByteArray h = String.ofList s := rfl
  simp [decode?, String.fromUTF8?, h, hs]

/-- Bytes have a text exactly if they are the bytes of that text. -/
theorem decode?_eq_some_iff {b : Bytes} {s : Text} : decode? b = some s ↔ b = encode s := by
  refine ⟨fun h => ?_, fun h => h ▸ decode?_encode s⟩
  obtain ⟨t, ht, rfl⟩ := Option.map_eq_some_iff.1 h
  unfold String.fromUTF8? at ht
  split at ht
  · have hb : t.toByteArray = b.toByteArray := by rw [← Option.some.inj ht]; rfl
    exact List.toByteArray_inj.1 (hb.symm.trans String.utf8Encode_toList.symm)
  · cases ht

end Synopsis
