import Synopsis.Proofs.Batch.Ending
import Synopsis.Proofs.Files.Names
import Synopsis.Proofs.Listing.LineCount
import Synopsis.Proofs.Listing.Scan

namespace Synopsis

/-!
# Listings and outlines agree

A listing counts the lines of a file in its bytes, an outline those of its text, and each of them
looks at the size on its own.

* `outlineFile_of_tooLarge`, `outlineFile_of_notText`, `outlineFile_of_text` — how outlining a file
  of a volume ends;
* `encode_path_entry` — the path of an entry leads to what the entry is about;
* `Entry.AgreesWith` — an entry is right about a file and about how outlining the file ends;
* `scan_agrees_with_outlineFile` — the entries of files are.
-/

/-! ### Outlining a file -/

section Outlining

variable {v : Volume} {s : Settings} {path : Path} {f : File}

theorem Volume.status_of_file (hfile : v.file path = .ok f) :
    v.storage.status path = .ok ⟨false, f.content.length⟩ := by
  show v.status path = _
  rw [status, file_eq_ok_iff.1 hfile]
  rfl

theorem outlineFile_of_tooLarge (x : Extractor) (hs : s.fault? = none)
    (hfile : v.file path = .ok f) (hsize : s.maxFileBytes < f.content.length) :
    (outlineFile v x s path).value
      = .error (.fileTooLarge path f.content.length s.maxFileBytes) :=
  Storage.value_of_ends (.tooLarge hs (Volume.status_of_file hfile) hsize)

theorem outlineFile_of_notText (x : Extractor) (hs : s.fault? = none)
    (hfile : v.file path = .ok f) (hsize : f.content.length ≤ s.maxFileBytes)
    (htext : decode? f.content = none) :
    (outlineFile v x s path).value = .error (.io .notText) :=
  Storage.value_of_ends (.notText hs (Volume.status_of_file hfile) hsize hfile htext)

theorem outlineFile_of_text (x : Extractor) (hs : s.fault? = none) (hfile : v.file path = .ok f)
    (hsize : f.content.length ≤ s.maxFileBytes) {text : Text}
    (htext : decode? f.content = some text) :
    ∃ o, (outlineFile v x s path).value = .ok o ∧ o.sourceLines = (lines text).length :=
  ⟨_, Storage.value_of_ends (.outlined hs (Volume.status_of_file hfile) hsize hfile htext), rfl⟩

end Outlining

/-! ### Paths of entries -/

/-- What a walk finds has names that are text if all names in the directory are. -/
theorem Directory.isText_of_mem_walk {d : Directory} (hd : d.IsTextual)
    {admits : List Bytes → Bool → Bool} {found : Found} (h : found ∈ d.walk admits []) :
    ∀ name ∈ found.names, IsText name := by
  obtain ⟨names, item, hholds, -, rfl⟩ := mem_walk_iff.1 h
  exact hholds.isText hd

/-- The path of an entry leads to what the entry is about, since nothing in it had to be
    replaced. -/
theorem encode_path_entry {v : Volume} {s : Settings} {root : Path} (hroot : IsText root)
    {found : Found} (hnames : ∀ name ∈ found.names, IsText name) :
    encode (v.entry s root found).path = root.extend found.names := by
  rw [Volume.path_entry]
  exact (hroot.extend hnames).encode_decodeLossy

/-! ### Agreement -/

/-- An entry is right about a file, and about how outlining the file ends. -/
structure Entry.AgreesWith (e : Entry) (s : Settings) (f : File)
    (outlined : Except Error FileOutline) : Prop where
  /-- The size is that of the content. -/
  size : e.size = f.content.length
  /-- The lines are counted exactly if the settings allow to read so much. -/
  isCounted : e.lineCount.isSome = true ↔ e.size ≤ s.maxFileBytes
  /-- They are those of the text, in whatever blocks the content is read. -/
  counts : ∀ n, e.lineCount = some n → n = (lines (decodeLossy f.content)).length ∧
    ∀ blocks : List Bytes, blocks.flatten = f.content → countLines blocks = n
  /-- If the content is text, it is outlined, and the outline tells of as many lines. -/
  outlines : ∀ n text, e.lineCount = some n → decode? f.content = some text →
    (lines text).length = n ∧ ∃ o, outlined = .ok o ∧ o.sourceLines = n
  /-- If the content is no text, outlining says so. -/
  refuses : ∀ n, e.lineCount = some n → decode? f.content = none →
    outlined = .error (.io .notText)
  /-- If the size is above the limit, outlining names both. -/
  isTooLarge : s.maxFileBytes < e.size →
    outlined = .error (.fileTooLarge (encode e.path) e.size s.maxFileBytes)

/-- An entry with the size and the lines of a file agrees with the outline of the file. -/
theorem Entry.agreesWith_outlineFile {v : Volume} {s : Settings} {f : File} {e : Entry}
    (x : Extractor) (hs : s.fault? = none) (hfile : v.file (encode e.path) = .ok f)
    (hsize : e.size = f.content.length) (hcount : e.lineCount = s.countLines? f) :
    e.AgreesWith s f (outlineFile v x s (encode e.path)).value := by
  have hcounted : ∀ n, e.lineCount = some n →
      f.content.length ≤ s.maxFileBytes ∧ countLines [f.content] = n := by
    intro n hn
    rw [hcount, Settings.countLines?] at hn
    split at hn
    · rename_i hle
      exact ⟨hle, Option.some.inj hn⟩
    · cases hn
  have hlines : ∀ n, e.lineCount = some n → n = (lines (decodeLossy f.content)).length := by
    intro n hn
    rw [← (hcounted n hn).2, countLines_eq_length_lines, List.flatten_singleton]
  refine ⟨hsize, ?isCounted, ?counts, ?outlines, ?refuses, ?isTooLarge⟩
  case isCounted =>
    rw [hcount, hsize, Settings.countLines?]
    split <;> simp [*]
  case counts =>
    intro n hn
    refine ⟨hlines n hn, fun blocks hblocks => ?_⟩
    rw [countLines_eq_length_lines, hblocks, ← hlines n hn]
  case outlines =>
    intro n text hn htext
    have hlength : (lines text).length = n := by
      rw [hlines n hn, decodeLossy_of_decode? htext]
    obtain ⟨o, ho, hsource⟩ := outlineFile_of_text x hs hfile (hcounted n hn).1 htext
    exact ⟨hlength, o, ho, hsource.trans hlength⟩
  case refuses =>
    intro n hn htext
    exact outlineFile_of_notText x hs hfile (hcounted n hn).1 htext
  case isTooLarge =>
    intro hlarge
    rw [hsize] at hlarge ⊢
    exact outlineFile_of_tooLarge x hs hfile hlarge

/-- **Listings and outlines agree** on every file below a root: on its size, on whether it may be
    read, and on the number of its lines. -/
theorem scan_agrees_with_outlineFile {v : Volume} {s : Settings} {root : Text}
    {entries : List Entry} {e : Entry} {f : File} (x : Extractor) (htext : v.top.IsTextual)
    (hscan : scan v s (encode root) = .ok entries) (he : e ∈ entries)
    (hdirectory : e.isDirectory = false) (hfile : v.file (encode e.path) = .ok f) :
    e.AgreesWith s f (outlineFile v x s (encode e.path)).value := by
  obtain ⟨hs, -⟩ := scan_eq_ok_iff.1 hscan
  obtain ⟨way, d, hlookup, found, hfound, rfl⟩ := (mem_scan_iff hscan).1 he
  have hd : d.IsTextual := htext.of_mem (Volume.mem_directories_of_lookup hlookup)
  have hpath :
      encode (v.entry s (encode root) found).path = Path.extend (encode root) found.names :=
    encode_path_entry ⟨root, rfl⟩ (Directory.isText_of_mem_walk hd hfound)
  have hfile' : v.file (Path.extend (encode root) found.names) = .ok f := hpath ▸ hfile
  obtain ⟨hsize, hcount⟩ := Volume.entry_of_file hdirectory hfile'
  exact Entry.agreesWith_outlineFile x hs hfile hsize hcount

/-- The entry of a link agrees with the outline of its target. -/
theorem scan_agrees_with_outlineFile_link :
    let e : Entry := ⟨"./b".toList, "b".toList, false, 4, some 2⟩
    let f : File := ⟨encode "x\r\ny".toList, []⟩
    Volume.sample.file (encode e.path) = .ok f ∧
      e.AgreesWith .sample f (outlineFile .sample .full .sample (encode e.path)).value := by
  intro e f
  have hfile : Volume.sample.file (encode e.path) = .ok f := by cbv
  have htext : Volume.sample.top.IsTextual := by decide +kernel
  have he : e ∈ [(⟨"./a.rs".toList, "a.rs".toList, false, 4, some 2⟩ : Entry), e,
      ⟨"./d".toList, "d".toList, true, 4096, none⟩,
      ⟨"./d/e.py".toList, "d/e.py".toList, false, 2, some 1⟩] :=
    List.mem_cons_of_mem _ List.mem_cons_self
  exact ⟨hfile, scan_agrees_with_outlineFile .full htext scan_sample he rfl hfile⟩

end Synopsis
