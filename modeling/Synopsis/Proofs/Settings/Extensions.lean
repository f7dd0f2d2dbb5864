import Synopsis.Proofs.Text.LetterCase
import Synopsis.Settings

namespace Synopsis

/-!
# Which extensions take effect

A name is lowered before its end is compared with an ignored extension, and the extension is not.
So an extension is found in any letter case if it is its own lower case, and not at all otherwise.

* `EndsAlike` — a name ends in an extension, up to the letter case of ASCII letters;
* `endsWith_lowercase_of_isLower` — an extension in lower case is found at the end of such names;
* `Settings.ignoresFile_withoutExtension` — any other extension can be left out of the settings;
* `extension_takes_effect_iff` — which extensions take effect;
* `capital_extension_without_effect` — one that does not.
-/

/-- Whether the name ends in the extension, up to the letter case of ASCII letters. -/
def EndsAlike (ext name : Text) : Prop :=
  ∃ front tail, name = front ++ tail ∧ tail.map Char.toLower = ext.map Char.toLower

/-- An extension is at its own end. -/
theorem endsAlike_self (ext : Text) : EndsAlike ext ext := ⟨[], ext, rfl, rfl⟩

/-- An extension in lower case is found in whatever letter case the name has. -/
theorem endsWith_lowercase_of_isLower {ext name : Text} (hext : IsLower ext)
    (h : EndsAlike ext name) : endsWith ext (lowercase name) = true := by
  obtain ⟨front, tail, rfl, halike⟩ := h
  obtain ⟨u, hu⟩ := exists_lowercaseAfter_append [] front tail
  have hname : lowercase (front ++ tail) = u ++ ext := by
    show lowercaseAfter [] (front ++ tail) = u ++ ext
    rw [hu, lowercaseAfter_of_toLower_eq hext halike]
  rw [endsWith, List.isSuffixOf_iff_suffix, hname]
  exact List.suffix_append u ext

/-- Only extensions in lower case are found. -/
theorem isLower_of_endsWith_lowercase {ext name : Text}
    (h : endsWith ext (lowercase name) = true) : IsLower ext := by
  have hsuffix : ext <:+ lowercase name := List.isSuffixOf_iff_suffix.1 h
  intro c hc
  exact isLower_of_mem_lowercaseAfter [] name c (hsuffix.subset hc)

/-- The settings without an extension. -/
def Settings.withoutExtension (s : Settings) (ext : Text) : Settings :=
  { s with ignoredExtensions := s.ignoredExtensions.filter (· ≠ ext) }

/-- **An extension that is not in lower case has no effect.**  The same names are passed over
    without it. -/
theorem Settings.ignoresFile_withoutExtension {ext : Text} (hext : ¬ IsLower ext) (s : Settings)
    (name : Text) : (s.withoutExtension ext).ignoresFile name = s.ignoresFile name := by
  have hdead : endsWith ext (lowercase name) = false := by
    rw [Bool.eq_false_iff]
    exact fun h => hext (isLower_of_endsWith_lowercase h)
  unfold ignoresFile withoutExtension
  rw [List.any_filter]
  congr 2
  funext e
  -- The extension left out is the one that is not found.
  by_cases he : e = ext
  · simp [he, hdead]
  · simp [he]

/-- Settings that pass over nothing but the names that end in an extension. -/
def Settings.onlyExtension (ext : Text) : Settings where
  maxFileBytes := 1
  ignoredDirs := []
  ignoredFiles := []
  ignoredExtensions := [ext]
  parallel := false

theorem Settings.fault?_onlyExtension {ext : Text} (hdot : startsWithDot ext = true) :
    (onlyExtension ext).fault? = none := by
  simp [fault?, onlyExtension, hdot]

/-- **Which extensions take effect.**  Exactly those that are their own lower case: each name that
    ends in one of them, in any case of its ASCII letters, is passed over under all settings that
    list it and are not at fault.  Any other extension makes no difference to any name. -/
theorem extension_takes_effect_iff {ext : Text} (hdot : startsWithDot ext = true) :
    ((∀ s : Settings, s.fault? = none → ext ∈ s.ignoredExtensions →
        ∀ name, EndsAlike ext name → s.ignoresFile name = true) ↔ lowercase ext = ext) ∧
      (lowercase ext ≠ ext → ∀ (s : Settings) (name : Text),
        (s.withoutExtension ext).ignoresFile name = s.ignoresFile name) := by
  refine ⟨⟨fun h => ?_, fun hlower s _ hmem name halike => ?_⟩, fun hne s name => ?_⟩
  · -- The extension alone must find itself.
    have hself := h (.onlyExtension ext) (Settings.fault?_onlyExtension hdot)
      List.mem_cons_self ext (endsAlike_self ext)
    have hfound : endsWith ext (lowercase ext) = true := by
      simpa [Settings.ignoresFile, Settings.onlyExtension] using hself
    exact lowercase_eq_self_iff.2 (isLower_of_endsWith_lowercase hfound)
  · have hfound := endsWith_lowercase_of_isLower (lowercase_eq_self_iff.1 hlower) halike
    rw [Settings.ignoresFile, Bool.or_eq_true, List.any_eq_true]
    exact Or.inr ⟨ext, hmem, hfound⟩
  · apply Settings.ignoresFile_withoutExtension
    exact fun hlower => hne (lowercase_eq_self_iff.2 hlower)

/-- An extension in lower case, with a letter beyond ASCII, and one with a capital letter. -/
theorem extension_takes_effect_iff_photo :
    (startsWithDot ".é1a".toList = true ∧
      ∀ s : Settings, s.fault? = none → ".é1a".toList ∈ s.ignoredExtensions →
        s.ignoresFile "Photo.é1A".toList = true) ∧
    startsWithDot ".Png".toList = true ∧ lowercase ".Png".toList ≠ ".Png".toList ∧
      ∀ s : Settings, (s.withoutExtension ".Png".toList).ignoresFile "a.Png".toList
        = s.ignoresFile "a.Png".toList := by
  have hlower : lowercase ".é1a".toList = ".é1a".toList := by decide +kernel
  have hcapital : lowercase ".Png".toList ≠ ".Png".toList := by decide +kernel
  have halike : EndsAlike ".é1a".toList "Photo.é1A".toList :=
    ⟨"Photo".toList, ".é1A".toList, by decide, by decide⟩
  refine ⟨⟨by decide, fun s hs hmem => ?_⟩, by decide, hcapital, fun s => ?_⟩
  · exact (extension_takes_effect_iff (by decide)).1.2 hlower s hs hmem _ halike
  · exact (extension_takes_effect_iff (by decide)).2 hcapital s _

/-- **An extension without effect.**  Settings are accepted that list `.PNG`, and they pass over
    no name that ends in it, be it in capital or in small letters. -/
theorem capital_extension_without_effect :
    ∃ (s : Settings) (ext : Text), s.fault? = none ∧ ext ∈ s.ignoredExtensions ∧
      EndsAlike ext "logo.PNG".toList ∧ s.ignoresFile "logo.PNG".toList = false ∧
      EndsAlike ext "logo.png".toList ∧ s.ignoresFile "logo.png".toList = false := by
  refine ⟨.onlyExtension ".PNG".toList, ".PNG".toList, by decide, List.mem_cons_self,
    ⟨"logo".toList, ".PNG".toList, by decide, rfl⟩, by decide +kernel,
    ⟨"logo".toList, ".png".toList, by decide, by decide⟩, by decide +kernel⟩

end Synopsis
