import Mathlib.Data.List.DropRight
import Synopsis.Text.Blank

namespace Synopsis

/-!
# Trimming

What `trim` leaves of a text is the text without a run of white space at either end, and no
white space is left there.

* `IsTrimmed` — no white space at either end;
* `isTrimmed_trim` — trimming leaves none;
* `exists_append_trim`, `trim_isInfix` — trimming takes nothing but white space, and only at the
  ends;
* `mem_trim_iff`, `count_trim` — hence every other character survives it, each time;
* `trim_append_blank`, `trim_append_trimEnd` — white space at the end is of no account;
* `trim_trim` — trimming twice is trimming once.
-/

/-- No white space stands at either end of the text. -/
structure IsTrimmed (s : Text) : Prop where
  /-- The first character is not white space. -/
  head : ∀ c, s.head? = some c → isBlank c = false
  /-- The last character is not white space. -/
  last : ∀ c, s.getLast? = some c → isBlank c = false

theorem isTrimmed_nil : IsTrimmed [] := ⟨by simp, by simp⟩

/-! ### Either end -/

/-- What goes at the beginning is white space. -/
theorem exists_append_trimStart (s : Text) :
    ∃ before, s = before ++ trimStart s ∧ ∀ c ∈ before, isBlank c = true :=
  ⟨s.takeWhile isBlank, List.takeWhile_append_dropWhile.symm, fun _ => List.mem_takeWhile_imp⟩

/-- What goes at the end is white space. -/
theorem exists_append_trimEnd (s : Text) :
    ∃ after, s = trimEnd s ++ after ∧ ∀ c ∈ after, isBlank c = true :=
  ⟨s.rtakeWhile isBlank, List.rdropWhile_append_rtakeWhile.symm,
    fun _ => List.mem_rtakeWhile_imp⟩

theorem isBlank_of_head?_trimStart {s : Text} {c : Char} (h : (trimStart s).head? = some c) :
    isBlank c = false := by
  have hd := List.head?_dropWhile_not isBlank s
  rw [show s.dropWhile isBlank = trimStart s from rfl, h] at hd
  exact hd

theorem isBlank_of_getLast?_trimEnd {s : Text} {c : Char} (h : (trimEnd s).getLast? = some c) :
    isBlank c = false := by
  rw [trimEnd, List.getLast?_reverse] at h
  exact isBlank_of_head?_trimStart h

/-! ### Both ends -/

/-- Trimmed text has no white space at either end. -/
theorem isTrimmed_trim (s : Text) : IsTrimmed (trim s) := by
  constructor
  · intro c hc
    -- Cutting at the end keeps the first character of what is left.
    obtain ⟨after, hafter, -⟩ := exists_append_trimEnd (trimStart s)
    apply isBlank_of_head?_trimStart (s := s)
    rw [hafter, List.head?_append]
    show (trim s).head?.or _ = some c
    rw [hc]
    rfl
  · intro c hc
    exact isBlank_of_getLast?_trimEnd hc

/-- A text is its trimmed form between two runs of white space. -/
theorem exists_append_trim (s : Text) :
    ∃ before after, s = before ++ trim s ++ after ∧
      (∀ c ∈ before, isBlank c = true) ∧ ∀ c ∈ after, isBlank c = true := by
  obtain ⟨before, hs, hbefore⟩ := exists_append_trimStart s
  obtain ⟨after, ht, hafter⟩ := exists_append_trimEnd (trimStart s)
  refine ⟨before, after, ?_, hbefore, hafter⟩
  rw [List.append_assoc]
  exact hs.trans (congrArg (before ++ ·) ht)

theorem trim_isInfix (s : Text) : trim s <:+: s := by
  obtain ⟨before, after, hs, -, -⟩ := exists_append_trim s
  exact ⟨before, after, hs.symm⟩

/-- What is not white space survives trimming. -/
theorem mem_trim_iff {s : Text} {c : Char} (hc : isBlank c = false) : c ∈ trim s ↔ c ∈ s := by
  obtain ⟨before, after, hs, hbefore, hafter⟩ := exists_append_trim s
  constructor
  · intro h
    rw [hs]
    simp [h]
  · intro h
    rw [hs, List.mem_append, List.mem_append] at h
    rcases h with (h | h) | h
    · rw [hbefore c h] at hc
      cases hc
    · exact h
    · rw [hafter c h] at hc
      cases hc

/-- What is not white space survives trimming as often as it stands in the text. -/
theorem count_trim {c : Char} (hc : isBlank c = false) (s : Text) :
    (trim s).count c = s.count c := by
  have hblank : ∀ run : Text, (∀ d ∈ run, isBlank d = true) → run.count c = 0 := by
    intro run hrun
    refine List.count_eq_zero.2 fun hmem => ?_
    rw [hrun c hmem] at hc
    cases hc
  obtain ⟨before, after, hs, hbefore, hafter⟩ := exists_append_trim s
  have hcount := congrArg (List.count c) hs
  rw [List.count_append, List.count_append, hblank before hbefore, hblank after hafter] at hcount
  omega

/-! ### White space at the end -/

theorem trimEnd_append_blank {s after : Text} (h : ∀ c ∈ after, isBlank c = true) :
    trimEnd (s ++ after) = trimEnd s := by
  rw [trimEnd, List.reverse_append, List.dropWhile_append_of_pos]
  · rfl
  · intro c hc
    exact h c (List.mem_reverse.1 hc)

/-- White space at the end goes. -/
theorem trim_append_blank {s after : Text} (h : ∀ c ∈ after, isBlank c = true) :
    trim (s ++ after) = trim s := by
  rw [trim, trim, trimStart, trimStart, List.dropWhile_append]
  split
  · -- There is nothing but white space.
    rename_i hblank
    rw [List.isEmpty_iff.1 hblank, List.dropWhile_eq_nil_iff.2 h]
  · exact trimEnd_append_blank h

/-- It is of no account whether the end was trimmed before. -/
theorem trim_append_trimEnd (s t : Text) : trim (s ++ trimEnd t) = trim (s ++ t) := by
  obtain ⟨after, hafter, hblank⟩ := exists_append_trimEnd t
  have h := trim_append_blank (s := s ++ trimEnd t) hblank
  rw [List.append_assoc, ← hafter] at h
  exact h.symm

/-- Trimmed text stays as it is. -/
theorem trim_trim (s : Text) : trim (trim s) = trim s := by
  have hstart : trimStart (trimStart s) = trimStart s := List.dropWhile_idempotent isBlank s
  calc trim (trimEnd (trimStart s))
      = trim (trimStart s) := trim_append_trimEnd [] (trimStart s)
    _ = trimEnd (trimStart s) := congrArg trimEnd hstart

/-- A text that ends in another character than white space keeps its end. -/
theorem exists_trim_concat {c : Char} (hc : isBlank c = false) (s : Text) :
    ∃ front, trim (s ++ [c]) = front ++ [c] := by
  have hend : ∀ front : Text, trimEnd (front ++ [c]) = front ++ [c] := by
    intro front
    rw [trimEnd, List.reverse_append, List.reverse_singleton, List.singleton_append,
      List.dropWhile_cons_of_neg (by simp [hc]), List.reverse_cons, List.reverse_reverse]
  rw [trim, trimStart, List.dropWhile_append]
  split
  · rw [List.dropWhile_cons_of_neg (by simp [hc])]
    exact ⟨[], hend []⟩
  · exact ⟨_, hend _⟩

/-- A text of which nothing is left is white space. -/
theorem isBlank_of_trim_eq_nil {s : Text} (h : trim s = []) : ∀ c ∈ s, isBlank c = true := by
  obtain ⟨before, after, hs, hbefore, hafter⟩ := exists_append_trim s
  rw [h, List.append_nil] at hs
  rw [hs]
  intro c hc
  rcases List.mem_append.1 hc with hc | hc
  · exact hbefore c hc
  · exact hafter c hc

end Synopsis
