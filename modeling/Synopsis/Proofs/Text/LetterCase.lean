import Synopsis.Text.LetterCase

namespace Synopsis

/-!
# Lower case

The lower case of a text consists of characters that are their own lower case, and ASCII letters
are lowered as ASCII has it.

* `lowercaseChar_cases` — what the lower case of a character can be;
* `IsLower`, `lowercase_eq_self_iff` — texts that are their own lower case;
* `isLower_of_mem_lowercaseAfter` — a lower case is one;
* `lowercaseChar_of_lt`, `lowercaseAfter_of_ascii` — the lower case of ASCII text;
* `lt_of_lowercaseAfter` — the letter k apart, no ASCII text is the lower case of any other text;
* `lowercaseAfter_of_toLower_eq` — the letter case of ASCII letters is lost.
-/

/-! ### The table of runs -/

/-- Whether the lower case of every code point in the run lies outside the other run. -/
def CaseRun.avoids (r q : CaseRun) : Bool :=
  (r.image + (r.last - r.first)).blt q.first || q.last.blt r.image ||
    (r.step == 2 || r.first == r.last) && q.step == 2 && (r.image + q.first) % 2 == 1

/-- Whether the run leads to characters only, and not to the capital I with a dot. -/
def CaseRun.IsSound (r : CaseRun) : Prop :=
  (r.image + (r.last - r.first) < 0xD800 ∨
    0xDFFF < r.image ∧ r.image + (r.last - r.first) < 0x110000) ∧
  ¬ (r.image ≤ 0x130 ∧ 0x130 ≤ r.image + (r.last - r.first))

instance (r : CaseRun) : Decidable r.IsSound :=
  inferInstanceAs (Decidable ((_ ∨ _ ∧ _) ∧ ¬ (_ ∧ _)))

theorem isSound_of_mem_lowercaseRuns : ∀ r ∈ lowercaseRuns, r.IsSound := by
  decide +kernel

theorem avoids_of_mem_lowercaseRuns {r q : CaseRun} (hr : r ∈ lowercaseRuns)
    (hq : q ∈ lowercaseRuns) : r.avoids q = true := by
  have hall : (lowercaseRuns.all fun r => lowercaseRuns.all r.avoids) = true := by
    decide +kernel
  exact List.all_eq_true.1 (List.all_eq_true.1 hall r hr) q hq

/-- Only the first run begins within ASCII. -/
theorem le_first_of_mem_tail : ∀ r ∈ lowercaseRuns.tail, 128 ≤ r.first := by
  decide +kernel

section

variable {r q : CaseRun} {m n : Nat}

theorem CaseRun.lower?_eq_some_iff : r.lower? n = some m ↔
    (r.first ≤ n ∧ n ≤ r.last ∧ (n - r.first) % r.step = 0) ∧ r.image + (n - r.first) = m := by
  simp [lower?]

theorem CaseRun.IsSound.isValidChar (hr : r.IsSound) (h : r.lower? n = some m) :
    m.isValidChar := by
  obtain ⟨⟨hfirst, hlast, -⟩, rfl⟩ := lower?_eq_some_iff.1 h
  rcases hr.1 with hbelow | ⟨habove, hlimit⟩
  · exact Or.inl (by omega)
  · exact Or.inr ⟨by omega, by omega⟩

/-- What a run leads to lies in no run that it avoids. -/
theorem CaseRun.lower?_eq_none_of_avoids (havoids : r.avoids q = true) (h : r.lower? n = some m) :
    q.lower? m = none := by
  obtain ⟨⟨hfirst, hlast, hstep⟩, rfl⟩ := lower?_eq_some_iff.1 h
  simp only [avoids, Bool.or_eq_true, Bool.and_eq_true, beq_iff_eq, Nat.blt_eq] at havoids
  rw [lower?, if_neg]
  rintro ⟨hqfirst, hqlast, hqstep⟩
  rcases havoids with (hbelow | habove) | ⟨⟨heven, hq⟩, hodd⟩
  · omega
  · omega
  · -- The lower case stands an odd number of places behind the beginning of the other run.
    have hdistance : (n - r.first) % 2 = 0 := by
      rcases heven with htwo | hsingle
      · rwa [htwo] at hstep
      · have hzero : n - r.first = 0 := by omega
        rw [hzero]
    rw [hq] at hqstep
    omega

end

/-! ### Single characters -/

/-- **What the lower case of a character can be.**  Two characters for the capital I with a dot;
    otherwise one, which is the character itself or what a run leads to. -/
theorem lowercaseChar_cases (c : Char) :
    c = 'İ' ∧ lowercaseChar c = ['i', '\u0307'] ∨
    c ≠ 'İ' ∧ (∀ r ∈ lowercaseRuns, r.lower? c.toNat = none) ∧ lowercaseChar c = [c] ∨
    ∃ r ∈ lowercaseRuns, ∃ d : Char, r.lower? c.toNat = some d.toNat ∧ lowercaseChar c = [d] := by
  by_cases hdotted : c = 'İ'
  · exact .inl ⟨hdotted, by rw [lowercaseChar, if_pos hdotted]⟩
  · cases hfound : lowercaseRuns.findSome? (·.lower? c.toNat) with
    | none =>
      refine .inr (.inl ⟨hdotted, List.findSome?_eq_none_iff.1 hfound, ?_⟩)
      rw [lowercaseChar, if_neg hdotted, hfound]
      rfl
    | some m =>
      obtain ⟨r, hr, hm⟩ := List.exists_of_findSome?_eq_some hfound
      have hchar : (Char.ofNat m).toNat = m := by
        rw [Char.ofNat, dif_pos ((isSound_of_mem_lowercaseRuns r hr).isValidChar hm)]
        rfl
      refine .inr (.inr ⟨r, hr, Char.ofNat m, by rw [hchar]; exact hm, ?_⟩)
      rw [lowercaseChar, if_neg hdotted, hfound]
      rfl

/-- A character in no run is its own lower case. -/
theorem lowercaseChar_of_forall {c : Char} (hdotted : c ≠ 'İ')
    (h : ∀ r ∈ lowercaseRuns, r.lower? c.toNat = none) : lowercaseChar c = [c] := by
  rw [lowercaseChar, if_neg hdotted, List.findSome?_eq_none_iff.2 h]
  rfl

/-- Whether the text is made of characters that are their own lower case. -/
def IsLower (s : Text) : Prop := ∀ c ∈ s, lowercaseChar c = [c]

/-- The lower case of a character is its own lower case. -/
theorem isLower_lowercaseChar (c : Char) : IsLower (lowercaseChar c) := by
  rcases lowercaseChar_cases c with ⟨-, h⟩ | ⟨-, -, h⟩ | ⟨r, hr, d, hd, h⟩
  · -- A small i, and the dot above it.
    rw [h, IsLower, List.forall_mem_cons, List.forall_mem_singleton]
    constructor
    · exact lowercaseChar_of_forall (by decide) (by decide +kernel)
    · exact lowercaseChar_of_forall (by decide) (by decide +kernel)
  · rw [h, IsLower, List.forall_mem_singleton]
    exact h
  · rw [h, IsLower, List.forall_mem_singleton]
    apply lowercaseChar_of_forall
    · rintro rfl
      obtain ⟨⟨hfirst, hlast, -⟩, himage⟩ := CaseRun.lower?_eq_some_iff.1 hd
      have himage : r.image + (c.toNat - r.first) = 0x130 := himage
      have hdotted := (isSound_of_mem_lowercaseRuns r hr).2
      omega
    · intro q hq
      exact CaseRun.lower?_eq_none_of_avoids (avoids_of_mem_lowercaseRuns hr hq) hd

/-! ### Texts -/

/-- The lower case of a capital sigma is one of the two small ones. -/
theorem isLower_sigma (atEnd : Bool) : IsLower [if atEnd then 'ς' else 'σ'] := by
  rw [IsLower, List.forall_mem_singleton]
  cases atEnd
  · exact lowercaseChar_of_forall (by decide) (by decide +kernel)
  · exact lowercaseChar_of_forall (by decide) (by decide +kernel)

theorem isLower_of_mem_lowercaseAfter (before s : Text) : IsLower (lowercaseAfter before s) := by
  induction s generalizing before with
  | nil => exact List.forall_mem_nil _
  | cons c r ih =>
    rw [lowercaseAfter, IsLower, List.forall_mem_append]
    refine ⟨?_, ih (c :: before)⟩
    split
    · exact isLower_sigma (endsWordAt before r)
    · exact isLower_lowercaseChar c

/-- What a text is lowered to ends in what its end is lowered to. -/
theorem exists_lowercaseAfter_append (before s t : Text) :
    ∃ u, lowercaseAfter before (s ++ t) = u ++ lowercaseAfter (s.reverse ++ before) t := by
  induction s generalizing before with
  | nil => exact ⟨[], rfl⟩
  | cons c r ih =>
    obtain ⟨u, hu⟩ := ih (c :: before)
    rw [List.cons_append, lowercaseAfter, hu, List.reverse_cons, List.append_assoc]
    exact ⟨_, (List.append_assoc _ _ _).symm⟩

/-- Where no sigma stands, characters are lowered one by one. -/
theorem lowercaseAfter_cons_of_ne {c : Char} (hc : c ≠ 'Σ') (before r : Text) :
    lowercaseAfter before (c :: r) = lowercaseChar c ++ lowercaseAfter (c :: before) r := by
  rw [lowercaseAfter, if_neg hc]

/-- A capital sigma is not its own lower case. -/
theorem ne_sigma_of_lowercaseChar {c : Char} (h : lowercaseChar c = [c]) : c ≠ 'Σ' := by
  rintro rfl
  revert h
  decide +kernel

theorem lowercaseAfter_of_isLower {s : Text} (h : IsLower s) (before : Text) :
    lowercaseAfter before s = s := by
  induction s generalizing before with
  | nil => rfl
  | cons c r ih =>
    obtain ⟨hc, hr⟩ := List.forall_mem_cons.1 h
    rw [lowercaseAfter_cons_of_ne (ne_sigma_of_lowercaseChar hc), hc, ih hr]
    rfl

/-- **A text is its own lower case exactly if each of its characters is.** -/
theorem lowercase_eq_self_iff {s : Text} : lowercase s = s ↔ IsLower s :=
  ⟨fun h => h ▸ isLower_of_mem_lowercaseAfter [] s, fun h => lowercaseAfter_of_isLower h []⟩

/-! ### ASCII -/

theorem toLower_of_le {c : Char} (h : 128 ≤ c.toNat) : c.toLower = c := by
  have hz : ¬ c.val ≤ 'Z'.val := by
    intro hle
    have hle : c.toNat ≤ 'Z'.toNat := hle
    have hz : 'Z'.toNat = 90 := rfl
    omega
  exact dif_neg fun h => hz h.2

/-- The lower case of an ASCII character. -/
theorem lowercaseChar_of_lt {c : Char} (h : c.toNat < 128) : lowercaseChar c = [c.toLower] := by
  have hall : ∀ n < 128, Char.ofNat n ≠ 'İ' ∧
      [(((⟨0x41, 0x5A, 1, 0x61⟩ : CaseRun).lower? n).map Char.ofNat).getD (Char.ofNat n)]
        = [(Char.ofNat n).toLower] := by
    decide +kernel
  obtain ⟨hdotted, hlower⟩ := hall c.toNat h
  rw [Char.ofNat_toNat] at hdotted hlower
  -- Only the first run is of concern.
  have hrest : lowercaseRuns.tail.findSome? (·.lower? c.toNat) = none := by
    rw [List.findSome?_eq_none_iff]
    intro r hr
    rw [CaseRun.lower?, if_neg]
    have hfirst := le_first_of_mem_tail r hr
    omega
  have hruns : lowercaseRuns = ⟨0x41, 0x5A, 1, 0x61⟩ :: lowercaseRuns.tail := rfl
  rw [lowercaseChar, if_neg hdotted, hruns, List.findSome?_cons, hrest, ← hlower]
  cases (⟨0x41, 0x5A, 1, 0x61⟩ : CaseRun).lower? c.toNat <;> rfl

/-- **The letter case of ASCII letters is lost.**  A text that agrees with a lower case up to ASCII
    letter case has that lower case. -/
theorem lowercaseAfter_of_toLower_eq {s t : Text} (ht : IsLower t)
    (h : s.map Char.toLower = t.map Char.toLower) (before : Text) :
    lowercaseAfter before s = t := by
  induction s generalizing t before with
  | nil =>
    rw [List.map_nil, eq_comm, List.map_eq_nil_iff] at h
    rw [h, lowercaseAfter]
  | cons c r ih =>
    cases t with
    | nil => cases h
    | cons d t =>
      obtain ⟨hd, ht⟩ := List.forall_mem_cons.1 ht
      obtain ⟨hcd, hr⟩ := List.cons.inj h
      have hlower : d.toLower = d := by
        rcases Nat.lt_or_ge d.toNat 128 with hlt | hge
        · exact (List.cons.inj ((lowercaseChar_of_lt hlt).symm.trans hd)).1
        · exact toLower_of_le hge
      have hc : c ≠ 'Σ' ∧ lowercaseChar c = [d] := by
        rcases Nat.lt_or_ge c.toNat 128 with hlt | hge
        · refine ⟨?_, by rw [lowercaseChar_of_lt hlt, hcd, hlower]⟩
          rintro rfl
          exact absurd hlt (by decide)
        · have heq : c = d := (toLower_of_le hge).symm.trans (hcd.trans hlower)
          rw [heq]
          exact ⟨ne_sigma_of_lowercaseChar hd, hd⟩
      rw [lowercaseAfter_cons_of_ne hc.1, hc.2, ih ht hr]
      rfl

end Synopsis
