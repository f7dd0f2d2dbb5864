import Synopsis.Text.Utf8

namespace Synopsis

/-!
# Decoding bytes

Any bytes have a text.  Well-formed bytes have the text whose bytes they are, and in all others an
ASCII byte still stands for itself and for nothing else.

* `decodeLossy_encode` — the bytes of a text have that text;
* `IsText` — bytes that are those of a text;
* `Pending.IsSound`, `leadByte_cases`, `Pending.next_cases` — what becomes of a byte;
* `decodeLossy_append_cons` — an ASCII byte ends whatever was begun before it;
* `splitOn_decodeLossy` — hence text may be cut at an ASCII character before or after decoding.
-/

/-! ### The bytes of a text -/

theorem leadByte_two {n : Nat} (h : 2 ≤ n) (h' : n < 32) :
    leadByte (UInt8.ofNat (n + 192)) = ([], some ⟨n, 1, 0x80, 0xBF⟩) := by
  have hb : (UInt8.ofNat (n + 192)).toNat = n + 192 :=
    UInt8.toNat_ofNat_of_lt' (show n + 192 < 256 by omega)
  simp only [leadByte, UInt8.lt_iff_toNat_lt, UInt8.reduceToNat, hb]
  rw [if_neg (by omega), if_neg (by omega), if_pos (by omega), Nat.add_sub_cancel]

theorem leadByte_three {n : Nat} (h : n < 16) :
    leadByte (UInt8.ofNat (n + 224)) = ([], some ⟨n, 2, if n = 0 then 0xA0 else 0x80,
      if n = 13 then 0x9F else 0xBF⟩) := by
  have hb : (UInt8.ofNat (n + 224)).toNat = n + 224 :=
    UInt8.toNat_ofNat_of_lt' (show n + 224 < 256 by omega)
  simp only [leadByte, UInt8.lt_iff_toNat_lt, ← UInt8.toNat_inj, UInt8.reduceToNat, hb]
  rw [if_neg (by omega), if_neg (by omega), if_neg (by omega), if_pos (by omega),
    Nat.add_sub_cancel]
  simp only [Nat.reduceEqDiff, Nat.add_eq_right]

theorem leadByte_four {n : Nat} (h : n < 5) :
    leadByte (UInt8.ofNat (n + 240)) = ([], some ⟨n, 3, if n = 0 then 0x90 else 0x80,
      if n = 4 then 0x8F else 0xBF⟩) := by
  have hb : (UInt8.ofNat (n + 240)).toNat = n + 240 :=
    UInt8.toNat_ofNat_of_lt' (show n + 240 < 256 by omega)
  simp only [leadByte, UInt8.lt_iff_toNat_lt, ← UInt8.toNat_inj, UInt8.reduceToNat, hb]
  rw [if_neg (by omega), if_neg (by omega), if_neg (by omega), if_neg (by omega),
    if_pos (by omega), Nat.add_sub_cancel]
  simp only [Nat.reduceEqDiff, Nat.add_eq_right]

/-- A byte that goes on with a character adds six bits to its code. -/
theorem decodeFrom_continuation {code missing n : Nat} {least greatest : UInt8} (hn : n < 64)
    (hl : least.toNat ≤ n + 128) (hg : n + 128 ≤ greatest.toNat) (r : Bytes) :
    decodeFrom (some ⟨code, missing, least, greatest⟩) (UInt8.ofNat (n + 128) :: r)
      = if missing ≤ 1 then Char.ofNat (code * 64 + n) :: decodeFrom none r
        else decodeFrom (some ⟨code * 64 + n, missing - 1, 0x80, 0xBF⟩) r := by
  have hb : (UInt8.ofNat (n + 128)).toNat = n + 128 :=
    UInt8.toNat_ofNat_of_lt' (show n + 128 < 256 by omega)
  have hin : least ≤ UInt8.ofNat (n + 128) ∧ UInt8.ofNat (n + 128) ≤ greatest := by
    rw [UInt8.le_iff_toNat_le, UInt8.le_iff_toNat_le, hb]
    exact ⟨hl, hg⟩
  rw [decodeFrom, if_pos hin, Pending.next, hb]
  simp only [Nat.add_sub_cancel]
  split <;> rfl

/-- The bytes of a character make that character. -/
theorem decodeFrom_utf8EncodeChar (c : Char) (r : Bytes) :
    decodeFrom none (String.utf8EncodeChar c ++ r) = c :: decodeFrom none r := by
  have hc : Char.ofNat c.val.toNat = c := Char.ofNat_toNat c
  have hvalid : c.val.toNat < 0xD800 ∨ 0xDFFF < c.val.toNat ∧ c.val.toNat < 0x110000 := c.valid
  unfold String.utf8EncodeChar
  generalize c.val.toNat = v at hc hvalid
  subst hc
  dsimp only
  -- One, two, three or four bytes.
  split
  · have hb : (UInt8.ofNat v).toNat = v := UInt8.toNat_ofNat_of_lt' (show v < 256 by omega)
    have hlt : UInt8.ofNat v < 0x80 := by
      rw [UInt8.lt_iff_toNat_lt, hb]
      simp only [UInt8.reduceToNat]
      omega
    rw [List.singleton_append, decodeFrom, leadByte, if_pos hlt, hb]
    rfl
  split
  · have hv : v / 64 % 32 * 64 + v % 64 = v := by omega
    simp only [List.cons_append, List.nil_append, decodeFrom]
    rw [leadByte_two (by omega) (by omega), List.nil_append,
      decodeFrom_continuation (by omega) (by simp) (by simp; omega), if_pos (Nat.le_refl 1), hv]
  split
  · have hv : (v / 4096 % 16 * 64 + v / 64 % 64) * 64 + v % 64 = v := by omega
    simp only [List.cons_append, List.nil_append, decodeFrom]
    rw [leadByte_three (by omega), List.nil_append,
      decodeFrom_continuation (by omega) ?_ ?_, if_neg (by omega),
      decodeFrom_continuation (by omega) (by simp) (by simp; omega), if_pos (Nat.le_refl 1), hv]
    · split <;> simp only [UInt8.reduceToNat] <;> omega
    · split <;> simp only [UInt8.reduceToNat] <;> omega
  · have hv : ((v / 262144 % 8 * 64 + v / 4096 % 64) * 64 + v / 64 % 64) * 64 + v % 64 = v := by
      omega
    simp only [List.cons_append, List.nil_append, decodeFrom]
    rw [leadByte_four (by omega), List.nil_append,
      decodeFrom_continuation (by omega) ?_ ?_, if_neg (by omega),
      decodeFrom_continuation (by omega) (by simp) (by simp; omega), if_neg (by omega),
      decodeFrom_continuation (by omega) (by simp) (by simp; omega), if_pos (Nat.le_refl 1), hv]
    · split <;> simp only [UInt8.reduceToNat] <;> omega
    · split <;> simp only [UInt8.reduceToNat] <;> omega

/-- **The bytes of a text have that text.** -/
@[simp] theorem decodeLossy_encode (s : Text) : decodeLossy (encode s) = s := by
  induction s with
  | nil => rfl
  | cons c s ih =>
    have hs : encode (c :: s) = String.utf8EncodeChar c ++ encode s := List.flatMap_cons
    rw [decodeLossy, hs, decodeFrom_utf8EncodeChar]
    exact congrArg (c :: ·) ih

theorem encode_append (s t : Text) : encode (s ++ t) = encode s ++ encode t :=
  List.flatMap_append

/-- Well-formed bytes have their text, and no replacement is made. -/
theorem decodeLossy_of_decode? {b : Bytes} {s : Text} (h : decode? b = some s) :
    decodeLossy b = s := by
  rw [decode?_eq_some_iff.1 h, decodeLossy_encode]

/-- Bytes that are those of a text. -/
def IsText (b : Bytes) : Prop := ∃ t, encode t = b

theorem IsText.encode_decodeLossy {b : Bytes} (h : IsText b) : encode (decodeLossy b) = b := by
  obtain ⟨t, rfl⟩ := h
  rw [decodeLossy_encode]

instance (b : Bytes) : Decidable (IsText b) :=
  decidable_of_iff (encode (decodeLossy b) = b)
    ⟨fun h => ⟨decodeLossy b, h⟩, IsText.encode_decodeLossy⟩

theorem IsText.append {b c : Bytes} (hb : IsText b) (hc : IsText c) : IsText (b ++ c) := by
  obtain ⟨s, rfl⟩ := hb
  obtain ⟨t, rfl⟩ := hc
  exact ⟨s ++ t, encode_append s t⟩

/-! ### ASCII bytes among others -/

/-- A character was begun that no ASCII byte goes on with, and that does not become an ASCII
    character. -/
structure Pending.IsSound (p : Pending) : Prop where
  /-- The next byte is none of the ASCII ones. -/
  least : 0x80 ≤ p.least.toNat
  /-- The next byte leaves something to go on with. -/
  code : 2 ≤ p.code * 64 + (p.least.toNat - 0x80)
  /-- If the next byte is the last one, the code is beyond ASCII then. -/
  last : p.missing ≤ 1 → 0x80 ≤ p.code * 64 + (p.least.toNat - 0x80)

/-- **What a byte can do at the start of a character.**  An ASCII byte is a character; any other
    one is replaced or begins a character. -/
theorem leadByte_cases (b : UInt8) :
    (b.toNat < 0x80 ∧ leadByte b = ([Char.ofNat b.toNat], none)) ∨
    (0x80 ≤ b.toNat ∧ leadByte b = ([replacement], none)) ∨
    (0x80 ≤ b.toNat ∧ ∃ p : Pending, leadByte b = ([], some p) ∧ p.IsSound) := by
  simp only [leadByte, UInt8.lt_iff_toNat_lt, ← UInt8.toNat_inj, UInt8.reduceToNat]
  split
  · exact .inl ⟨‹_›, rfl⟩
  split
  · exact .inr (.inl ⟨by omega, rfl⟩)
  split
  · refine .inr (.inr ⟨by omega, _, rfl, ?_, ?_, fun _ => ?_⟩)
    all_goals
      simp only [UInt8.reduceToNat]
      omega
  split
  · refine .inr (.inr ⟨by omega, _, rfl, ?_, ?_, fun h => ?_⟩)
    · dsimp only
      split <;> decide
    · dsimp only
      split <;> simp only [UInt8.reduceToNat] <;> omega
    · -- More than one byte is missing.
      exact absurd (show 2 ≤ 1 from h) (by decide)
  split
  · refine .inr (.inr ⟨by omega, _, rfl, ?_, ?_, fun h => ?_⟩)
    · dsimp only
      split <;> decide
    · dsimp only
      split <;> simp only [UInt8.reduceToNat] <;> omega
    · exact absurd (show 3 ≤ 1 from h) (by decide)
  · exact .inr (.inl ⟨by omega, rfl⟩)

/-- **What a byte can do that goes on with a character.**  It completes one beyond ASCII, or
    leaves one to be completed. -/
theorem Pending.next_cases {p : Pending} (hp : p.IsSound) {b : UInt8} (hb : p.least ≤ b) :
    (∃ n, 0x80 ≤ n ∧ p.next b = ([Char.ofNat n], none)) ∨
    ∃ q : Pending, p.next b = ([], some q) ∧ q.IsSound := by
  have hb : p.least.toNat ≤ b.toNat := hb
  by_cases h : p.missing ≤ 1
  · have hlast := hp.last h
    exact .inl ⟨p.code * 64 + (b.toNat - 0x80), by omega, by rw [next, if_pos h]⟩
  · have hcode := hp.code
    refine .inr ⟨_, by rw [next, if_neg h], ?_, ?_, fun _ => ?_⟩
    all_goals
      simp only [UInt8.reduceToNat]
      omega

theorem isSound_leadByte (b : UInt8) : ∀ p ∈ (leadByte b).2, p.IsSound := by
  rcases leadByte_cases b with ⟨-, h⟩ | ⟨-, h⟩ | ⟨-, p, h, hp⟩
  · simp [h]
  · simp [h]
  · simpa [h] using hp

theorem Pending.isSound_next {p : Pending} (hp : p.IsSound) {b : UInt8} (hb : p.least ≤ b) :
    ∀ q ∈ (p.next b).2, q.IsSound := by
  rcases p.next_cases hp hb with ⟨n, -, h⟩ | ⟨q, h, hq⟩
  · simp [h]
  · simpa [h] using hq

section Ascii

variable {b : UInt8} (hb : b < 0x80)
include hb

/-- An ASCII byte ends a character that was begun before it, and stands for itself. -/
theorem decodeFrom_append_cons (s r : Bytes) {begun : Option Pending}
    (hbegun : ∀ p ∈ begun, p.IsSound) :
    decodeFrom begun (s ++ b :: r)
      = decodeFrom begun s ++ Char.ofNat b.toNat :: decodeFrom none r := by
  have hlead : leadByte b = ([Char.ofNat b.toNat], none) := by rw [leadByte, if_pos hb]
  induction s generalizing begun with
  | nil =>
    cases begun with
    | none => simp only [List.nil_append, decodeFrom, hlead, List.singleton_append]
    | some p =>
      have hp := (hbegun p rfl).least
      have hless : ¬ (p.least ≤ b ∧ b ≤ p.greatest) := by
        rintro ⟨h, -⟩
        have h : p.least.toNat ≤ b.toNat := h
        have hb : b.toNat < 0x80 := hb
        omega
      simp only [List.nil_append, decodeFrom, if_neg hless, hlead, List.cons_append]
  | cons c s ih =>
    cases begun with
    | none => simp only [List.cons_append, decodeFrom, List.append_assoc, ih (isSound_leadByte c)]
    | some p =>
      simp only [List.cons_append, decodeFrom]
      split
      · rename_i hc
        rw [ih (p.isSound_next (hbegun p rfl) hc.1), List.append_assoc]
      · rw [ih (isSound_leadByte c)]
        simp only [List.cons_append, List.append_assoc]

/-- Bytes may be decoded apart on both sides of an ASCII byte. -/
theorem decodeLossy_append_cons (s r : Bytes) :
    decodeLossy (s ++ b :: r) = decodeLossy s ++ Char.ofNat b.toNat :: decodeLossy r :=
  decodeFrom_append_cons hb s r (by simp)

variable (h0 : b ≠ 0)
include h0

/-- No other code makes the character of an ASCII byte. -/
theorem eq_of_ofNat_eq {n : Nat} (h : Char.ofNat b.toNat = Char.ofNat n) : n = b.toNat := by
  have hb : b.toNat < 0x80 := hb
  have h0 : b.toNat ≠ 0 := fun h => h0 (UInt8.toNat_inj.1 h)
  have hvalid : b.toNat.isValidChar := Or.inl (by omega)
  by_cases hn : n.isValidChar
  · rw [Char.ofNat, dif_pos hvalid, Char.ofNat, dif_pos hn] at h
    have hcode : b.toNat = n := congrArg Char.toNat h
    exact hcode.symm
  · -- A code that no character has makes the character of zero.
    rw [Char.ofNat, dif_pos hvalid, Char.ofNat, dif_neg hn] at h
    have hzero : b.toNat = 0 := congrArg Char.toNat h
    exact absurd hzero h0

/-- The character of an ASCII byte comes from that byte alone. -/
theorem mem_of_mem_decodeFrom {s : Bytes} {begun : Option Pending}
    (hbegun : ∀ p ∈ begun, p.IsSound) (h : Char.ofNat b.toNat ∈ decodeFrom begun s) : b ∈ s := by
  have hlt : b.toNat < 0x80 := hb
  have hreplacement : Char.ofNat b.toNat ≠ replacement := by
    intro h
    have hn : 0xFFFD = b.toNat := eq_of_ofNat_eq hb h0 h
    omega
  -- At the start of a character only the byte itself makes the character.
  have hlead : ∀ c, Char.ofNat b.toNat ∈ (leadByte c).1 → b = c := by
    intro c hc
    rcases leadByte_cases c with ⟨-, h⟩ | ⟨-, h⟩ | ⟨-, p, h, -⟩
    · rw [h, List.mem_singleton] at hc
      exact (UInt8.toNat_inj.1 (eq_of_ofNat_eq hb h0 hc)).symm
    · rw [h, List.mem_singleton] at hc
      exact absurd hc hreplacement
    · rw [h] at hc
      cases hc
  induction s generalizing begun with
  | nil =>
    cases begun with
    | none => cases h
    | some p => exact absurd (List.mem_singleton.1 h) hreplacement
  | cons c s ih =>
    cases begun with
    | none =>
      rcases List.mem_append.1 h with h | h
      · exact hlead c h ▸ List.mem_cons_self
      · exact List.mem_cons_of_mem c (ih (isSound_leadByte c) h)
    | some p =>
      rw [decodeFrom] at h
      split at h
      · rename_i hc
        rcases List.mem_append.1 h with h | h
        · rcases p.next_cases (hbegun p rfl) hc.1 with ⟨n, hn, hnext⟩ | ⟨q, hnext, -⟩
          · rw [hnext, List.mem_singleton] at h
            have hn' : n = b.toNat := eq_of_ofNat_eq hb h0 h
            omega
          · rw [hnext] at h
            cases h
        · exact List.mem_cons_of_mem c (ih (p.isSound_next (hbegun p rfl) hc.1) h)
      · rcases List.mem_cons.1 h with h | h
        · exact absurd h hreplacement
        rcases List.mem_append.1 h with h | h
        · exact hlead c h ▸ List.mem_cons_self
        · exact List.mem_cons_of_mem c (ih (isSound_leadByte c) h)

/-- **Cutting at an ASCII character.**  It makes no difference whether bytes are cut and then
    decoded, or decoded and then cut. -/
theorem splitOn_decodeLossy (s : Bytes) :
    (decodeLossy s).splitOn (Char.ofNat b.toNat) = (s.splitOn b).map decodeLossy := by
  by_cases h : b ∈ s
  · obtain ⟨before, after, rfl⟩ := List.append_of_mem h
    rw [decodeLossy_append_cons hb, List.splitOn_append_cons_self, List.splitOn_append_cons_self,
      List.map_append, splitOn_decodeLossy before, splitOn_decodeLossy after]
  · have hchar : Char.ofNat b.toNat ∉ decodeLossy s := fun hmem =>
      h (mem_of_mem_decodeFrom hb h0 (by simp) hmem)
    rw [List.splitOn_eq_singleton h, List.splitOn_eq_singleton hchar]
    rfl
termination_by s.length

end Ascii

/-! ### Nothing gets lost -/

/-- What was begun leaves a character in the text. -/
theorem decodeFrom_some_ne_nil (p : Pending) (s : Bytes) : decodeFrom (some p) s ≠ [] := by
  induction s generalizing p with
  | nil => exact List.cons_ne_nil _ _
  | cons c s ih =>
    rw [decodeFrom]
    split
    · rw [Pending.next]
      split
      · exact List.cons_ne_nil _ _
      · exact ih _
    · exact List.cons_ne_nil _ _

/-- Only no bytes have no text. -/
theorem decodeLossy_eq_nil_iff {s : Bytes} : decodeLossy s = [] ↔ s = [] := by
  refine ⟨fun h => ?_, fun h => h ▸ rfl⟩
  cases s with
  | nil => rfl
  | cons b s =>
    rw [decodeLossy, decodeFrom, List.append_eq_nil_iff] at h
    rcases leadByte_cases b with ⟨-, hb⟩ | ⟨-, hb⟩ | ⟨-, p, hb, -⟩
    · simp [hb] at h
    · simp [hb] at h
    · rw [hb] at h
      exact absurd h.2 (decodeFrom_some_ne_nil p s)

end Synopsis
