import Mathlib
import Synopsis.Listing.Scan
import Synopsis.Proofs.Listing.Walk
import Synopsis.Proofs.Sorting

namespace Synopsis

/-!
# What a listing consists of

A listing has an entry for each thing that a walk finds, in the order of their paths.

* `byRelativePath` — entries in the order of a listing, which ascends
  (`byRelativePath_strictly_ascending`) and puts entries side by side no matter what else is
  listed (`byRelativePath_sublist`);
* `scan_eq_ok_iff`, `mem_scan_iff` — the entries of a listing;
* `Volume.entry_of_file` — an entry tells of the file that its path leads to;
* `Volume.sample` — a small project, and its listing.
-/

/-! ### The order of entries -/

theorem textLe_iff {a b : Text} : textLe a b = true ↔ a ≤ b := by
  rw [textLe, Bool.not_eq_true', decide_eq_false_iff_not, not_lt]

theorem relativePath_le_trans (a b c : Entry) (hab : textLe a.relativePath b.relativePath = true)
    (hbc : textLe b.relativePath c.relativePath = true) :
    textLe a.relativePath c.relativePath = true :=
  textLe_iff.2 (le_trans (textLe_iff.1 hab) (textLe_iff.1 hbc))

theorem relativePath_le_total (a b : Entry) :
    (textLe a.relativePath b.relativePath || textLe b.relativePath a.relativePath) = true := by
  rw [Bool.or_eq_true, textLe_iff, textLe_iff]
  exact le_total _ _

/-- Entries by their paths below the root; entries with the same path keep their order. -/
def byRelativePath (entries : List Entry) : List Entry :=
  entries.mergeSort fun a b => textLe a.relativePath b.relativePath

theorem byRelativePath_perm (entries : List Entry) : (byRelativePath entries).Perm entries :=
  List.mergeSort_perm entries _

/-- If no path occurs twice, the paths ascend strictly. -/
theorem byRelativePath_strictly_ascending {entries : List Entry}
    (h : (entries.map (·.relativePath)).Nodup) :
    (byRelativePath entries).Pairwise fun a b => a.relativePath < b.relativePath := by
  have hle : (byRelativePath entries).Pairwise fun a b => a.relativePath ≤ b.relativePath :=
    (List.pairwise_mergeSort relativePath_le_trans relativePath_le_total entries).imp
      fun hab => textLe_iff.1 hab
  have hne : (byRelativePath entries).Pairwise fun a b => a.relativePath ≠ b.relativePath :=
    List.pairwise_map.1 (((byRelativePath_perm entries).map _).nodup_iff.2 h)
  exact (hle.and hne).imp fun hab => lt_of_le_of_ne hab.1 hab.2

/-- Leaving out entries leaves the others in their order. -/
theorem byRelativePath_sublist {entries entries' : List Entry} (h : entries'.Sublist entries) :
    (byRelativePath entries').Sublist (byRelativePath entries) :=
  mergeSort_sublist_mergeSort relativePath_le_trans relativePath_le_total h

/-! ### Entries -/

namespace Volume

variable {v : Volume} {s : Settings} {root : Path} {found : Found}

@[simp] theorem path_entry :
    (v.entry s root found).path = decodeLossy (root.extend found.names) := by
  rw [entry]
  split
  · rfl
  all_goals split <;> rfl

@[simp] theorem relativePath_entry :
    (v.entry s root found).relativePath = decodeLossy (joinNames found.names) := by
  rw [entry]
  split
  · rfl
  all_goals split <;> rfl

theorem isDirectory_entry (h : found.item.isDirectory = true) :
    (v.entry s root found).isDirectory = true := by
  obtain ⟨names, item⟩ := found
  cases item with
  | directory sub => rfl
  | file f => cases h
  | link target => cases h

/-- An entry that is no directory tells of the file that its path leads to. -/
theorem entry_of_file {f : File} (hentry : (v.entry s root found).isDirectory = false)
    (hfile : v.file (root.extend found.names) = .ok f) :
    (v.entry s root found).size = f.content.length ∧
      (v.entry s root found).lineCount = s.countLines? f := by
  have hlookup := file_eq_ok_iff.1 hfile
  rw [entry] at hentry ⊢
  split at hentry
  · cases hentry
  all_goals simp only [hlookup, and_self]

end Volume

/-! ### Listings -/

/-- A listing succeeds if the settings are in order and there is something at the root. -/
theorem scan_eq_ok_iff {v : Volume} {s : Settings} {root : Path} {entries : List Entry} :
    scan v s root = .ok entries ↔ s.fault? = none ∧ ∃ spot, v.lookup root = .ok spot ∧
      entries = byRelativePath ((v.listed s spot).map (v.entry s root)) := by
  rw [scan]
  split
  · rename_i fault hfault
    simp [hfault]
  · rename_i hfault
    split
    · rename_i fault hlookup
      simp [hlookup]
    · rename_i spot hlookup
      simp [hlookup, hfault, byRelativePath, eq_comm]

/-- The entries of a listing are those of what a walk finds below the root. -/
theorem mem_scan_iff {v : Volume} {s : Settings} {root : Path} {entries : List Entry} {e : Entry}
    (h : scan v s root = .ok entries) :
    e ∈ entries ↔ ∃ way d, v.lookup root = .ok (.directory way d) ∧
      ∃ found ∈ d.walk (v.admits s way) [], e = v.entry s root found := by
  obtain ⟨-, spot, hlookup, rfl⟩ := scan_eq_ok_iff.1 h
  rw [(byRelativePath_perm _).mem_iff, List.mem_map, hlookup]
  cases spot with
  | outside => simp [Volume.listed]
  | file f => simp [Volume.listed]
  | directory way d => simp [Volume.listed, eq_comm]

/-! ### A small project -/

/-- A working directory with a source, a link to it, a picture, and a directory. -/
def Volume.sample : Volume where
  top := .file (encode "a.rs".toList) ⟨encode "x\r\ny".toList, []⟩
    (.link (encode "b".toList) (encode "a.rs".toList)
      (.file (encode "c.png".toList) ⟨encode "x".toList, []⟩
        (.directory (encode "d".toList)
          (.file (encode "e.py".toList) ⟨encode "x\n".toList, []⟩ .empty) .empty)))
  directorySize := 4096

/-- Settings that pass over pictures. -/
def Settings.sample : Settings where
  maxFileBytes := 100
  ignoredDirs := ["target".toList]
  ignoredFiles := []
  ignoredExtensions := [".png".toList]
  parallel := false

/-- The link has the lines of its target, and the picture is missing. -/
theorem scan_sample : scan .sample .sample (encode ".".toList) = .ok
    [⟨"./a.rs".toList, "a.rs".toList, false, 4, some 2⟩,
      ⟨"./b".toList, "b".toList, false, 4, some 2⟩,
      ⟨"./d".toList, "d".toList, true, 4096, none⟩,
      ⟨"./d/e.py".toList, "d/e.py".toList, false, 2, some 1⟩] := by
  cbv

end Synopsis
