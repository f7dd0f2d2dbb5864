import Synopsis.Batch.Outline

namespace Synopsis

/-!
# How outlining a file ends

Several things may be wrong with a file at once; which of them is reported is a matter of order.

* `Storage.Ends` — how outlining a file ends, one case for each way;
* `Storage.value_of_ends`, `Storage.exists_ends` — it does end so, in one of these ways;
* `Storage.outlineFile_eq_iff` — so the cases say all about the result;
* `Storage.outlineFile_congr_of_tooLarge` — a file that is too large is not read.
-/

variable {st : Storage} {x : Extractor} {s : Settings} {path : Path}

/-- How outlining a file ends.  Whatever goes wrong first is what is reported: the settings, the
    status of the file, its size, and last its content. -/
inductive Storage.Ends (st : Storage) (x : Extractor) (s : Settings) (path : Path) :
    Except Error FileOutline → Prop where
  /-- The settings are at fault. -/
  | refused {fault : Settings.Fault} (hs : s.fault? = some fault) :
      Ends st x s path (.error (.invalidSettings fault.reason))
  /-- Nothing is known of the file. -/
  | unknown {fault : FileFault} (hs : s.fault? = none) (hstatus : st.status path = .error fault) :
      Ends st x s path (.error (.io fault))
  /-- It is larger than the settings allow. -/
  | tooLarge {status : Status} (hs : s.fault? = none) (hstatus : st.status path = .ok status)
      (hsize : s.maxFileBytes < status.size) :
      Ends st x s path (.error (.fileTooLarge path status.size s.maxFileBytes))
  /-- It cannot be read. -/
  | unreadable {status : Status} {fault : FileFault} (hs : s.fault? = none)
      (hstatus : st.status path = .ok status) (hsize : status.size ≤ s.maxFileBytes)
      (hfile : st.file path = .error fault) :
      Ends st x s path (.error (.io fault))
  /-- Its content is no text. -/
  | notText {status : Status} {f : File} (hs : s.fault? = none)
      (hstatus : st.status path = .ok status) (hsize : status.size ≤ s.maxFileBytes)
      (hfile : st.file path = .ok f) (htext : decode? f.content = none) :
      Ends st x s path (.error (.io .notText))
  /-- It is outlined. -/
  | outlined {status : Status} {f : File} {content : Text} (hs : s.fault? = none)
      (hstatus : st.status path = .ok status) (hsize : status.size ≤ s.maxFileBytes)
      (hfile : st.file path = .ok f) (htext : decode? f.content = some content) :
      Ends st x s path (.ok (.ofOutline path content (x.extract path content f.nodes).value))

theorem Storage.read_of_error {fault : FileFault} (h : st.file path = .error fault) :
    st.read path = .error fault := by
  rw [read, h]
  rfl

theorem Storage.read_of_notText {f : File} (h : st.file path = .ok f)
    (htext : decode? f.content = none) : st.read path = .error .notText := by
  rw [read, h]
  simp only [bind, Except.bind, htext]

theorem Storage.read_of_text {f : File} {content : Text} (h : st.file path = .ok f)
    (htext : decode? f.content = some content) : st.read path = .ok (content, f.nodes) := by
  rw [read, h]
  simp only [bind, Except.bind, htext]

theorem Storage.value_of_ends {r : Except Error FileOutline} (h : st.Ends x s path r) :
    (st.outlineFile x s path).value = r := by
  unfold outlineFile source
  cases h with
  | refused hs => simp only [hs]
  | unknown hs hstatus => simp only [hs, hstatus]
  | tooLarge hs hstatus hsize => simp only [hs, hstatus, if_pos hsize]
  | unreadable hs hstatus hsize hfile =>
    simp only [hs, hstatus, if_neg (Nat.not_lt.2 hsize), read_of_error hfile]
  | notText hs hstatus hsize hfile htext =>
    simp only [hs, hstatus, if_neg (Nat.not_lt.2 hsize), read_of_notText hfile htext]
  | outlined hs hstatus hsize hfile htext =>
    simp only [hs, hstatus, if_neg (Nat.not_lt.2 hsize), read_of_text hfile htext]

/-- In every case outlining comes to an end. -/
theorem Storage.exists_ends (st : Storage) (x : Extractor) (s : Settings) (path : Path) :
    ∃ r, st.Ends x s path r := by
  cases hs : s.fault? with
  | some fault => exact ⟨_, .refused hs⟩
  | none =>
    cases hstatus : st.status path with
    | error fault => exact ⟨_, .unknown hs hstatus⟩
    | ok status =>
      rcases Nat.lt_or_ge s.maxFileBytes status.size with hsize | hsize
      · exact ⟨_, .tooLarge hs hstatus hsize⟩
      · cases hfile : st.file path with
        | error fault => exact ⟨_, .unreadable hs hstatus hsize hfile⟩
        | ok f =>
          cases htext : decode? f.content with
          | none => exact ⟨_, .notText hs hstatus hsize hfile htext⟩
          | some content => exact ⟨_, .outlined hs hstatus hsize hfile htext⟩

theorem Storage.outlineFile_eq_iff {r : Except Error FileOutline} :
    (st.outlineFile x s path).value = r ↔ st.Ends x s path r := by
  constructor
  · rintro rfl
    obtain ⟨r, hr⟩ := st.exists_ends x s path
    rw [value_of_ends hr]
    exact hr
  · exact value_of_ends

/-- A file that is too large is not asked for its content. -/
theorem Storage.outlineFile_congr_of_tooLarge {st' : Storage} {status : Status}
    (hstatus : st.status path = .ok status) (hstatus' : st'.status path = .ok status)
    (hsize : s.maxFileBytes < status.size) :
    st'.outlineFile x s path = st.outlineFile x s path := by
  have hsource : st'.source s path = st.source s path := by
    simp only [source, hstatus, hstatus', if_pos hsize]
  rw [outlineFile, outlineFile, hsource]

end Synopsis
