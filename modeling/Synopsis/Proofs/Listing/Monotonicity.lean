import Mathlib.Data.List.Forall2
import Synopsis.Proofs.Listing.Scan

namespace Synopsis

/-!
# Listings under other settings

Settings that pass over more names leave out entries, and settings that read larger files count
more lines.  Ignore files have their say in both listings alike.

* `Settings.IsTightenedBy`, `Settings.IsRaisedBy` — how settings may differ;
* `Volume.listed_sublist`, `Volume.isRefinedBy_entry` — what that means for one walk and for one
  entry;
* `EndAlike` — two runs fail alike or have related results;
* `scan_mono` — how the listings differ.
-/

/-! ### Settings that pass over more -/

/-- The second settings pass over all that the first ones do, and read files up to the same size. -/
structure Settings.IsTightenedBy (s s' : Settings) : Prop where
  maxFileBytes : s'.maxFileBytes = s.maxFileBytes
  ignoredDirs : s.ignoredDirs ⊆ s'.ignoredDirs
  ignoredFiles : s.ignoredFiles ⊆ s'.ignoredFiles
  ignoredExtensions : s.ignoredExtensions ⊆ s'.ignoredExtensions

section Tightened

variable {v : Volume} {s s' : Settings} {root : Path}

theorem Settings.IsTightenedBy.ignoresDirectory (h : s.IsTightenedBy s') {name : Text}
    (hname : s.ignoresDirectory name = true) : s'.ignoresDirectory name = true := by
  rw [Settings.ignoresDirectory, List.contains_iff_mem] at hname ⊢
  exact h.ignoredDirs hname

theorem Settings.IsTightenedBy.ignoresFile (h : s.IsTightenedBy s') {name : Text}
    (hname : s.ignoresFile name = true) : s'.ignoresFile name = true := by
  rw [Settings.ignoresFile, Bool.or_eq_true, List.contains_iff_mem, List.any_eq_true] at hname ⊢
  rcases hname with hname | ⟨ext, hext, hends⟩
  · exact Or.inl (h.ignoredFiles hname)
  · exact Or.inr ⟨ext, h.ignoredExtensions hext, hends⟩

theorem Settings.IsTightenedBy.passesOver (h : s.IsTightenedBy s') {name : Bytes}
    (hname : s.passesOver name = true) : s'.passesOver name = true := by
  rw [Settings.passesOver, Bool.or_eq_true] at hname ⊢
  exact hname.imp h.ignoresDirectory h.ignoresFile

/-- Tighter settings admit no more. -/
theorem Settings.IsTightenedBy.admits (h : s.IsTightenedBy s') {way names : List Bytes}
    {isDirectory : Bool} (hadmits : v.admits s' way names isDirectory = true) :
    v.admits s way names isDirectory = true := by
  rw [Volume.admits, Bool.and_eq_true, Bool.not_eq_true'] at hadmits ⊢
  refine ⟨hadmits.1, ?_⟩
  rw [← Bool.not_eq_true]
  intro hpasses
  rw [h.passesOver hpasses] at hadmits
  cases hadmits.2

/-- Tighter settings leave out some of what is listed. -/
theorem Volume.listed_sublist (h : s.IsTightenedBy s') (spot : Spot) :
    (v.listed s' spot).Sublist (v.listed s spot) := by
  cases spot with
  | directory way d => exact Directory.walk_sublist (fun _ _ => h.admits) [] d
  | file f => exact List.Sublist.refl _
  | outside => exact List.Sublist.refl _

/-- An entry depends on the limit alone. -/
theorem Volume.entry_congr (h : s'.maxFileBytes = s.maxFileBytes) (found : Found) :
    v.entry s' root found = v.entry s root found := by
  have hcount : s'.countLines? = s.countLines? := by
    funext f
    rw [Settings.countLines?, Settings.countLines?, h]
  rw [entry, entry, hcount]

end Tightened

/-! ### Settings that read larger files -/

/-- The second settings pass over the same names, and read files of at least the same size. -/
structure Settings.IsRaisedBy (s s' : Settings) : Prop where
  maxFileBytes : s.maxFileBytes ≤ s'.maxFileBytes
  ignoredDirs : s'.ignoredDirs = s.ignoredDirs
  ignoredFiles : s'.ignoredFiles = s.ignoredFiles
  ignoredExtensions : s'.ignoredExtensions = s.ignoredExtensions

/-- The entries are the same but for lines that only the second one has. -/
structure Entry.IsRefinedBy (e e' : Entry) : Prop where
  path : e'.path = e.path
  relativePath : e'.relativePath = e.relativePath
  isDirectory : e'.isDirectory = e.isDirectory
  size : e'.size = e.size
  lineCount : ∀ n, e.lineCount = some n → e'.lineCount = some n

section Raised

variable {v : Volume} {s s' : Settings} {root : Path}

theorem Entry.isRefinedBy_refl (e : Entry) : e.IsRefinedBy e :=
  ⟨rfl, rfl, rfl, rfl, fun _ h => h⟩

theorem Settings.IsRaisedBy.countLines? (h : s.IsRaisedBy s') {f : File} {n : Nat}
    (hn : s.countLines? f = some n) : s'.countLines? f = some n := by
  rw [Settings.countLines?] at hn ⊢
  split at hn
  · rename_i hsize
    rwa [if_pos (le_trans hsize h.maxFileBytes)]
  · cases hn

/-- A higher limit adds nothing to an entry but lines. -/
theorem Volume.isRefinedBy_entry (h : s.IsRaisedBy s') (found : Found) :
    (v.entry s root found).IsRefinedBy (v.entry s' root found) := by
  rw [entry, entry]
  split
  · exact Entry.isRefinedBy_refl _
  all_goals
    split
    · exact ⟨rfl, rfl, rfl, rfl, fun _ hn => h.countLines? hn⟩
    · exact Entry.isRefinedBy_refl _
    · exact Entry.isRefinedBy_refl _

theorem Settings.IsRaisedBy.admits (h : s.IsRaisedBy s') (way : List Bytes) :
    v.admits s' way = v.admits s way := by
  have hpasses : s'.passesOver = s.passesOver := by
    funext name
    rw [passesOver, passesOver, ignoresDirectory, ignoresDirectory, ignoresFile, ignoresFile,
      h.ignoredDirs, h.ignoredFiles, h.ignoredExtensions]
  funext names isDirectory
  rw [Volume.admits, Volume.admits, hpasses]

/-- A higher limit does not change what is listed. -/
theorem Volume.listed_congr (h : s.IsRaisedBy s') (spot : Spot) :
    v.listed s' spot = v.listed s spot := by
  cases spot with
  | directory way d => rw [listed, listed, h.admits]
  | file f => rfl
  | outside => rfl

/-- The order of entries is that of what they are about. -/
theorem byRelativePath_map_entry (found : List Found) :
    byRelativePath (found.map (v.entry s root)) = (found.mergeSort fun a b =>
      textLe (decodeLossy (joinNames a.names)) (decodeLossy (joinNames b.names))).map
        (v.entry s root) := by
  rw [byRelativePath, List.map_mergeSort]
  intro a _ b _
  rw [Volume.relativePath_entry, Volume.relativePath_entry]

end Raised

/-! ### Two listings -/

/-- Two runs end with the same error, or with results that are related. -/
inductive EndAlike {α : Type} (R : α → α → Prop) : Except Error α → Except Error α → Prop where
  | error (e : Error) : EndAlike R (.error e) (.error e)
  | ok {a b : α} : R a b → EndAlike R (.ok a) (.ok b)

/-- If the settings are in order, it does not depend on them whether a listing succeeds. -/
theorem endAlike_scan {v : Volume} {s s' : Settings} {root : Path} (hs : s.fault? = none)
    (hs' : s'.fault? = none) {R : List Entry → List Entry → Prop}
    (h : ∀ spot, R (byRelativePath ((v.listed s spot).map (v.entry s root)))
      (byRelativePath ((v.listed s' spot).map (v.entry s' root)))) :
    EndAlike R (scan v s root) (scan v s' root) := by
  rw [scan, scan, hs, hs']
  dsimp only
  cases v.lookup root with
  | error fault => exact .error _
  | ok spot => exact .ok (h spot)

/-- **Listings under other settings.**  Passing over more names only deletes entries, and a higher
    limit only adds line counts. -/
theorem scan_mono {v : Volume} {s s' : Settings} {root : Path} (hs : s.fault? = none)
    (hs' : s'.fault? = none) :
    (s.IsTightenedBy s' →
      EndAlike (fun entries entries' => entries'.Sublist entries)
        (scan v s root) (scan v s' root)) ∧
    (s.IsRaisedBy s' →
      EndAlike (List.Forall₂ Entry.IsRefinedBy) (scan v s root) (scan v s' root)) := by
  constructor
  · intro htightened
    refine endAlike_scan hs hs' fun spot => byRelativePath_sublist ?_
    have hentry : v.entry s' root = v.entry s root :=
      funext (Volume.entry_congr htightened.maxFileBytes)
    rw [hentry]
    exact (Volume.listed_sublist htightened spot).map _
  · intro hraised
    refine endAlike_scan hs hs' fun spot => ?_
    rw [Volume.listed_congr hraised, byRelativePath_map_entry, byRelativePath_map_entry,
      List.forall₂_map_left_iff, List.forall₂_map_right_iff, List.forall₂_same]
    exact fun found _ => Volume.isRefinedBy_entry hraised found

theorem scan_mono_sample :
    let tight : Settings := { Settings.sample with ignoredFiles := ["a.rs".toList] }
    let low : Settings := { Settings.sample with maxFileBytes := 3 }
    EndAlike (fun entries entries' => entries'.Sublist entries)
        (scan .sample .sample (encode ".".toList)) (scan .sample tight (encode ".".toList)) ∧
      EndAlike (List.Forall₂ Entry.IsRefinedBy)
        (scan .sample low (encode ".".toList)) (scan .sample .sample (encode ".".toList)) := by
  intro tight low
  have hs : Settings.sample.fault? = none := by decide
  have htight : Settings.sample.IsTightenedBy tight :=
    ⟨rfl, List.Subset.refl _, List.nil_subset _, List.Subset.refl _⟩
  have hlow : low.IsRaisedBy .sample := ⟨by decide, rfl, rfl, rfl⟩
  exact ⟨(scan_mono hs (by decide)).1 htight, (scan_mono (by decide) hs).2 hlow⟩

end Synopsis
