import Mathlib.Data.List.Infix
import Synopsis.Text.Column
import Synopsis.Text.Search

namespace Synopsis

/-!
# Cutting text

A row is cut at a column or in front of a marker.  What is left of it is a beginning of the row,
and this says which one.

* `byteLength`, `IsBoundary` — columns, and those at which a row can be cut;
* `bytePrefix?_eq_some_iff` — the bytes before a column are the beginning of that many bytes;
* `StandsFirst` — a beginning after which a marker stands for the first time;
* `standsFirst_iff` — it is what `upTo` leaves;
* `upTo_singleton` — in front of a single character stand the characters that differ from it.
-/

/-! ### Columns -/

/-- The number of bytes of a text. -/
def byteLength : Text → Nat
  | [] => 0
  | c :: r => c.utf8Size + byteLength r

theorem byteLength_eq_zero_iff {s : Text} : byteLength s = 0 ↔ s = [] := by
  cases s with
  | nil => simp [byteLength]
  | cons c r =>
    have hpos := c.utf8Size_pos
    simp only [byteLength, reduceCtorEq, iff_false]
    omega

/-- **The bytes before a column** are the beginning of the text that has as many. -/
theorem bytePrefix?_eq_some_iff {s head : Text} {column : Nat} :
    bytePrefix? s column = some head ↔ head <+: s ∧ byteLength head = column := by
  induction s generalizing head column with
  | nil =>
    rw [bytePrefix?, List.prefix_nil]
    constructor
    · intro h
      split at h
      · obtain rfl := Option.some.inj h
        exact ⟨rfl, by rw [byteLength]; omega⟩
      · cases h
    · rintro ⟨rfl, rfl⟩
      rfl
  | cons c r ih =>
    have hpos := c.utf8Size_pos
    rw [bytePrefix?, List.prefix_cons_iff]
    by_cases hzero : column = 0
    · -- Nothing stands before the first column.
      subst hzero
      rw [if_pos rfl, byteLength_eq_zero_iff]
      constructor
      · intro h
        obtain rfl := Option.some.inj h
        exact ⟨Or.inl rfl, rfl⟩
      · rintro ⟨-, rfl⟩
        rfl
    · rw [if_neg hzero]
      constructor
      · intro h
        split at h
        · obtain ⟨rest, hrest, rfl⟩ := Option.map_eq_some_iff.1 h
          obtain ⟨hbegin, hlength⟩ := ih.1 hrest
          refine ⟨Or.inr ⟨rest, rfl, hbegin⟩, ?_⟩
          rw [byteLength]
          omega
        · cases h
      · rintro ⟨rfl | ⟨rest, rfl, hbegin⟩, hlength⟩
        · exact absurd hlength.symm hzero
        · rw [byteLength] at hlength
          have hrest : bytePrefix? r (column - c.utf8Size) = some rest := ih.2 ⟨hbegin, by omega⟩
          rw [if_pos (by omega), hrest, Option.map_some]

theorem bytePrefix?_byteLength {head s : Text} (h : head <+: s) :
    bytePrefix? s (byteLength head) = some head :=
  bytePrefix?_eq_some_iff.2 ⟨h, rfl⟩

/-- Whether the column lies between two characters of the text or at one of its ends. -/
def IsBoundary (s : Text) (column : Nat) : Prop := ∃ head, head <+: s ∧ byteLength head = column

theorem bytePrefix?_eq_none_iff {s : Text} {column : Nat} :
    bytePrefix? s column = none ↔ ¬ IsBoundary s column := by
  simp only [Option.eq_none_iff_forall_ne_some, ne_eq, bytePrefix?_eq_some_iff, IsBoundary,
    not_exists]

/-! ### Markers -/

/-- The marker stands in the text after this beginning, and nowhere before. -/
structure StandsFirst (marker s head : Text) : Prop where
  /-- The marker follows the beginning. -/
  follows : head ++ marker <+: s
  /-- Wherever it stands in the text, no less precedes it. -/
  first : ∀ other, other ++ marker <+: s → head.length ≤ other.length

/-- If a marker stands in a text, it stands first after what `upTo` leaves. -/
theorem standsFirst_upTo {marker s before : Text} (h : before ++ marker <+: s) :
    StandsFirst marker s (upTo marker s) := by
  induction s generalizing before with
  | nil =>
    obtain ⟨-, rfl⟩ := List.append_eq_nil_iff.1 (List.prefix_nil.1 h)
    exact ⟨List.prefix_rfl, fun other _ => Nat.zero_le _⟩
  | cons c r ih =>
    rw [upTo]
    split
    · rename_i hmarker
      exact ⟨List.isPrefixOf_iff_prefix.1 hmarker, fun other _ => Nat.zero_le _⟩
    · rename_i hmarker
      -- Whatever precedes the marker starts with the first character.
      have hcons : ∀ other, other ++ marker <+: c :: r →
          ∃ rest, other = c :: rest ∧ rest ++ marker <+: r := by
        intro other hother
        cases other with
        | nil => exact absurd (List.isPrefixOf_iff_prefix.2 hother) hmarker
        | cons d rest =>
          obtain ⟨rfl, hrest⟩ := List.cons_prefix_cons.1 hother
          exact ⟨rest, rfl, hrest⟩
      obtain ⟨rest, -, hrest⟩ := hcons before h
      obtain ⟨hfollows, hfirst⟩ := ih hrest
      refine ⟨List.cons_prefix_cons.2 ⟨rfl, hfollows⟩, fun other hother => ?_⟩
      obtain ⟨rest, rfl, hrest⟩ := hcons other hother
      exact Nat.succ_le_succ (hfirst rest hrest)

/-- **What stands before a marker.**  It stands first after one beginning only. -/
theorem standsFirst_iff {marker s before head : Text} (h : before ++ marker <+: s) :
    StandsFirst marker s head ↔ head = upTo marker s := by
  have hupTo := standsFirst_upTo h
  constructor
  · intro hhead
    have hlength : head.length = (upTo marker s).length :=
      Nat.le_antisymm (hhead.first _ hupTo.follows) (hupTo.first _ hhead.follows)
    have hbegin : head <+: upTo marker s :=
      List.prefix_of_prefix_length_le ((List.prefix_append _ _).trans hhead.follows)
        ( upTo_prefix marker s) (Nat.le_of_eq hlength)
    exact hbegin.eq_of_length hlength
  · rintro rfl
    exact hupTo

/-- In front of a single character stand those that differ from it. -/
theorem upTo_singleton (c : Char) (s : Text) : upTo [c] s = s.takeWhile (· ≠ c) := by
  induction s with
  | nil => rfl
  | cons d r ih =>
    rw [upTo, List.takeWhile_cons, ih]
    by_cases h : d = c
    · subst h
      simp
    · have hne : c ≠ d := fun hc => h hc.symm
      simp [h, hne]

end Synopsis
