import Synopsis.Proofs.Files.Names
import Synopsis.Proofs.Listing.Scan

namespace Synopsis

/-!
# Which paths a listing has

Without ignore files an item is judged by its name alone, so a path is listed exactly if all names
on it are shown.

* `Settings.shows` — whether a name is shown;
* `Volume.IsIgnoreFree` — there are no ignore files;
* `mem_scan_iff_shows`, `pathText_mem_scan_iff` — what is listed then;
* `IsParentClosed`, `Directory.IsListedBy` — what is asked of a listing;
* `scan_lists_exactly` — a listing is what is asked;
* `left_out_iff_passed_over` — what is left out for its name.
-/

/-! ### Names that are shown -/

/-- Whether a name is shown: it does not begin with a dot and is not passed over. -/
def Settings.shows (s : Settings) (name : Text) : Bool :=
  name.head? ≠ some '.' && !s.ignoresDirectory name && !s.ignoresFile name

/-- The files that tell what to leave out of a listing. -/
def ignoreFiles : List (List String) := [[".ignore"], [".gitignore"], [".git", "info", "exclude"]]

/-- The names at which these files, or directories with them, stand. -/
def ignoreNames : List String := [".ignore", ".gitignore", ".git"]

/-- No directory on the way or below it has an ignore file. -/
def Volume.IsIgnoreFree (v : Volume) (way : List Bytes) : Prop :=
  ∀ names, names <+: way ∨ way <+: names → ∀ file ∈ ignoreFiles, ∀ f,
    v.below names file ≠ some (.file f)

section IgnoreFree

variable {v : Volume} {way : List Bytes}

theorem Volume.rulesAt_eq_nil {names : List Bytes} {file : List String}
    (h : ∀ f, v.below names file ≠ some (.file f)) : v.rulesAt names file = [] := by
  rw [rulesAt]
  split
  · rename_i f hf
    exact absurd hf (h f)
  · rfl

/-- If the names on which ignore files depend stand nowhere, there are none. -/
theorem Volume.isIgnoreFree_of_names (way : List Bytes)
    (h : ∀ d ∈ v.top.directories, ∀ name ∈ ignoreNames, encode name.toList ∉ d.names) :
    v.IsIgnoreFree way := by
  intro names _ file hfile f hbelow
  obtain ⟨name, hname, rest, rfl⟩ : ∃ name ∈ ignoreNames, ∃ rest, file = name :: rest := by
    rw [ignoreFiles, List.mem_cons, List.mem_cons, List.mem_singleton] at hfile
    rcases hfile with rfl | rfl | rfl
    · exact ⟨".ignore", by decide, [], rfl⟩
    · exact ⟨".gitignore", by decide, [], rfl⟩
    · exact ⟨".git", by decide, ["info", "exclude"], rfl⟩
  have hordinary :
      ∀ name ∈ ignoreNames, encode name.toList ≠ here ∧ encode name.toList ≠ above := by
    decide
  rw [below] at hbelow
  split at hbelow
  · rename_i d hd
    cases hfollow : v.top.follow maxLinks (.directory names d)
        ((name :: rest).map fun n => encode n.toList) with
    | error fault =>
      rw [hfollow] at hbelow
      cases hbelow
    | ok spot =>
      have hmem := Directory.mem_names_of_follow (hordinary name hname) hfollow
      exact h d (Directory.mem_directories_of_at? hd) name hname hmem
  · cases hbelow

theorem mem_of_mem_repositoryLayers {layers within : List Layer} {l : Layer}
    (h : repositoryLayers layers = some within) (hl : l ∈ within) : l ∈ layers := by
  induction layers generalizing within with
  | nil => cases h
  | cons first rest ih =>
    rw [repositoryLayers] at h
    split at h
    · cases h
      rw [List.mem_singleton.1 hl]
      exact List.mem_cons_self
    · obtain ⟨others, hothers, rfl⟩ := Option.map_eq_some_iff.1 h
      rcases List.mem_cons.1 hl with rfl | hl
      · exact List.mem_cons_self
      · exact List.mem_cons_of_mem _ (ih hothers hl)

/-- Layers without rules say nothing of a path. -/
theorem layersRuling?_eq_none {layers : List Layer} (isDirectory : Bool)
    (h : ∀ l ∈ layers, l.general = [] ∧ l.versioned = [] ∧ l.excluded = []) :
    layersRuling? layers isDirectory = none := by
  have hwithin : ∀ l ∈ (repositoryLayers layers).getD [], l ∈ layers := by
    intro l hl
    cases hrepository : repositoryLayers layers with
    | none =>
      rw [hrepository] at hl
      cases hl
    | some within =>
      rw [hrepository] at hl
      exact mem_of_mem_repositoryLayers hrepository hl
  have hsilent : ∀ (among : List Layer) (rules : Layer → List Rule), (∀ l ∈ among, rules l = []) →
      among.findSome? (fun l => ruling? (rules l) l.path isDirectory) = none := by
    intro among rules hrules
    rw [List.findSome?_eq_none_iff]
    intro l hl
    rw [hrules l hl]
    rfl
  rw [layersRuling?, hsilent _ Layer.general fun l hl => (h l hl).1,
    hsilent _ Layer.versioned fun l hl => (h l (hwithin l hl)).2.1,
    hsilent _ Layer.excluded fun l hl => (h l (hwithin l hl)).2.2]
  rfl

/-- Without ignore files nothing is said of what is below the way. -/
theorem Volume.IsIgnoreFree.layersRuling? (h : v.IsIgnoreFree way) (names : List Bytes)
    (isDirectory : Bool) :
    Synopsis.layersRuling? (v.layers (way ++ names)) isDirectory = none := by
  refine layersRuling?_eq_none isDirectory fun l hl => ?_
  obtain ⟨depth, -, rfl⟩ := List.mem_map.1 hl
  have hdepth : (way ++ names).take depth <+: way ∨ way <+: (way ++ names).take depth :=
    List.prefix_or_prefix_of_prefix (List.take_prefix depth _) (List.prefix_append way names)
  have hnone : ∀ file ∈ ignoreFiles, v.rulesAt ((way ++ names).take depth) file = [] :=
    fun file hfile => rulesAt_eq_nil (h _ hdepth file hfile)
  exact ⟨hnone _ (by simp [ignoreFiles]), hnone _ (by simp [ignoreFiles]),
    hnone _ (by simp [ignoreFiles])⟩

variable {s : Settings}

/-- Without ignore files the last name decides. -/
theorem Volume.IsIgnoreFree.admits_eq_shows (h : v.IsIgnoreFree way) (names : List Bytes)
    (name : Bytes) (isDirectory : Bool) :
    v.admits s way (names ++ [name]) isDirectory = s.shows (decodeLossy name) := by
  have hhidden : isHidden name = decide ((decodeLossy name).head? = some '.') := by
    rw [Bool.eq_iff_iff, isHidden_iff, decide_eq_true_eq]
  rw [Volume.admits, h.layersRuling?, List.getLast?_concat, Option.getD_some]
  dsimp only
  rw [hhidden, Settings.passesOver, Settings.shows, Bool.not_or, Bool.and_assoc, decide_not]

/-- Without ignore files all that leads to an item is admitted if all names are shown. -/
theorem Volume.IsIgnoreFree.isAdmitted_iff (h : v.IsIgnoreFree way) {names : List Bytes}
    {isDirectory : Bool} :
    IsAdmitted (v.admits s way) [] names isDirectory ↔
      ∀ name ∈ names, s.shows (decodeLossy name) = true := by
  constructor
  · intro hadmitted name hname
    obtain ⟨before, after, rfl⟩ := List.append_of_mem hname
    have hpre : before ++ [name] <+: before ++ name :: after := ⟨after, by simp⟩
    have hhere := hadmitted (before ++ [name]) (by simp) hpre
    rwa [List.nil_append, h.admits_eq_shows] at hhere
  · intro hshows p hp hpre
    obtain rfl | ⟨before, name, rfl⟩ := List.eq_nil_or_concat' p
    · exact absurd rfl hp
    rw [List.nil_append, h.admits_eq_shows]
    exact hshows name (hpre.subset (List.mem_append_right _ List.mem_cons_self))

end IgnoreFree

/-! ### What is listed -/

section Listed

variable {v : Volume} {s : Settings} {root : Path} {way : List Bytes} {d : Directory}
  {entries : List Entry} (hroot : v.lookup root = .ok (.directory way d))
  (hscan : scan v s root = .ok entries)
include hroot hscan

/-- Without ignore files all is listed on whose way all names are shown. -/
theorem mem_scan_iff_shows (hfree : v.IsIgnoreFree way) {e : Entry} :
    e ∈ entries ↔ ∃ names item, d.Holds names item ∧
      (∀ name ∈ names, s.shows (decodeLossy name) = true) ∧ e = v.entry s root ⟨names, item⟩ := by
  rw [mem_scan_iff hscan, hroot]
  constructor
  · rintro ⟨way', d', hsame, found, hfound, rfl⟩
    cases hsame
    obtain ⟨names, item, hholds, hadmitted, rfl⟩ := Directory.mem_walk_iff.1 hfound
    exact ⟨names, item, hholds, hfree.isAdmitted_iff.1 hadmitted, rfl⟩
  · rintro ⟨names, item, hholds, hshows, rfl⟩
    refine ⟨way, d, rfl, ⟨names, item⟩, ?_, rfl⟩
    exact Directory.mem_walk_iff.2 ⟨names, item, hholds, hfree.isAdmitted_iff.2 hshows, rfl⟩

variable (htext : v.top.IsTextual)
include htext

/-- The same for names that are text. -/
theorem mem_scan_iff_shows_text (hfree : v.IsIgnoreFree way) {e : Entry} :
    e ∈ entries ↔ ∃ (names : List Text) (item : Item), d.Holds (names.map encode) item ∧
      (∀ name ∈ names, s.shows name = true) ∧ e = v.entry s root ⟨names.map encode, item⟩ := by
  have hd : d.IsTextual := htext.of_mem (Volume.mem_directories_of_lookup hroot)
  rw [mem_scan_iff_shows hroot hscan hfree]
  constructor
  · rintro ⟨names, item, hholds, hshows, rfl⟩
    obtain ⟨texts, rfl⟩ := exists_map_encode (hholds.isText hd)
    refine ⟨texts, item, hholds, fun name hname => ?_, rfl⟩
    have hshown := hshows (encode name) (List.mem_map_of_mem hname)
    rwa [decodeLossy_encode] at hshown
  · rintro ⟨names, item, hholds, hshows, rfl⟩
    refine ⟨names.map encode, item, hholds, fun name hname => ?_, rfl⟩
    obtain ⟨text, htext, rfl⟩ := List.mem_map.1 hname
    rw [decodeLossy_encode]
    exact hshows text htext

variable (hwell : v.top.IsWellFormed)
include hwell

/-- **Whether a path is listed**, without ignore files: if there is something at the path and all
    names on it are shown. -/
theorem pathText_mem_scan_iff (hfree : v.IsIgnoreFree way) {names : List Text} (hne : names ≠ [])
    (hnames : ∀ name ∈ names.map encode, IsName name) :
    pathText names ∈ entries.map (·.relativePath) ↔
      (∃ item, d.Holds (names.map encode) item) ∧ ∀ name ∈ names, s.shows name = true := by
  have hmem : d ∈ v.top.directories := Volume.mem_directories_of_lookup hroot
  have hnames_text : ∀ name ∈ names.map encode, IsText name := by
    intro name hname
    obtain ⟨text, -, rfl⟩ := List.mem_map.1 hname
    exact ⟨text, rfl⟩
  rw [List.mem_map]
  constructor
  · rintro ⟨e, he, hpath⟩
    obtain ⟨names', item, hholds, hshows, rfl⟩ := (mem_scan_iff_shows hroot hscan hfree).1 he
    rw [Volume.relativePath_entry, ← decodeLossy_joinNames_map_encode] at hpath
    obtain rfl : names' = names.map encode :=
      eq_of_decodeLossy_joinNames_eq hholds.ne_nil (by simpa using hne)
        (hholds.isName (hwell.of_mem hmem)) hnames (hholds.isText (htext.of_mem hmem))
        hnames_text hpath
    refine ⟨⟨item, hholds⟩, fun name hname => ?_⟩
    have hshown := hshows (encode name) (List.mem_map_of_mem hname)
    rwa [decodeLossy_encode] at hshown
  · rintro ⟨⟨item, hholds⟩, hshows⟩
    refine ⟨v.entry s root ⟨names.map encode, item⟩, ?_, ?_⟩
    · exact (mem_scan_iff_shows_text hroot hscan htext hfree).2
        ⟨names, item, hholds, hshows, rfl⟩
    · rw [Volume.relativePath_entry, decodeLossy_joinNames_map_encode]

/-- No path is listed twice, with or without ignore files. -/
theorem relativePath_strictly_ascending_scan :
    entries.Pairwise fun a b => a.relativePath < b.relativePath := by
  have hmem : d ∈ v.top.directories := Volume.mem_directories_of_lookup hroot
  have hd := hwell.of_mem hmem
  have hdtext := htext.of_mem hmem
  obtain ⟨-, spot, hspot, rfl⟩ := scan_eq_ok_iff.1 hscan
  obtain rfl : Spot.directory way d = spot := Except.ok.inj (hroot.symm.trans hspot)
  apply byRelativePath_strictly_ascending
  -- What is found has different names, and these make different paths.
  have hdistinct : (d.walk (v.admits s way) []).Pairwise fun a b => a.names ≠ b.names :=
    List.pairwise_map.1 (Directory.nodup_names_walk hd.nodup [])
  rw [List.map_map]
  refine List.pairwise_map.2 (hdistinct.imp_of_mem fun {a b} ha hb hab hpaths => hab ?_)
  rw [Function.comp_apply, Function.comp_apply, Volume.relativePath_entry,
    Volume.relativePath_entry] at hpaths
  obtain ⟨names, item, hholds, -, rfl⟩ := Directory.mem_walk_iff.1 ha
  obtain ⟨names', item', hholds', -, rfl⟩ := Directory.mem_walk_iff.1 hb
  exact eq_of_decodeLossy_joinNames_eq hholds.ne_nil hholds'.ne_nil (hholds.isName hd)
    (hholds'.isName hd) (hholds.isText hdtext) (hholds'.isText hdtext) hpaths

end Listed

/-! ### Parents -/

/-- The directories on the way to what is listed are listed, too. -/
def IsParentClosed (entries : List Entry) : Prop :=
  ∀ e ∈ entries, ∀ parent rest, e.relativePath = parent ++ '/' :: rest →
    ∃ a ∈ entries, a.relativePath = parent ∧ a.isDirectory = true

/-- Ignore files leave out nothing on the way to what is listed. -/
theorem isParentClosed_scan {v : Volume} {s : Settings} {root : Path} {entries : List Entry}
    (hwell : v.top.IsWellFormed) (hscan : scan v s root = .ok entries) :
    IsParentClosed entries := by
  intro e he parent rest hpath
  obtain ⟨way, d, hroot, found, hfound, rfl⟩ := (mem_scan_iff hscan).1 he
  have hd := hwell.of_mem (Volume.mem_directories_of_lookup hroot)
  obtain ⟨names, item, hholds, hadmitted, rfl⟩ := Directory.mem_walk_iff.1 hfound
  rw [Volume.relativePath_entry, List.nil_append] at hpath
  have hslash : ∀ name ∈ names, slash ∉ name := fun name hname => (hholds.isName hd name hname).2
  obtain ⟨first, others, rfl, hfirst, hothers, hparent⟩ :=
    exists_names_of_decodeLossy_eq hholds.ne_nil hslash hpath
  obtain ⟨sub, hsub⟩ := Directory.exists_directory_mem_walk hfound hfirst hothers
  refine ⟨v.entry s root ⟨[] ++ first, .directory sub⟩, ?_, ?_, ?_⟩
  · exact (mem_scan_iff hscan).2 ⟨way, d, hroot, _, hsub, rfl⟩
  · rw [Volume.relativePath_entry, List.nil_append, hparent]
  · exact Volume.isDirectory_entry rfl

/-! ### Listings as a whole -/

/-- A listing has exactly what names that are shown lead to below a directory. -/
structure Directory.IsListedBy (d : Directory) (v : Volume) (s : Settings) (root : Path)
    (entries : List Entry) : Prop where
  /-- The paths ascend, so none comes twice. -/
  ascends : entries.Pairwise fun a b => a.relativePath < b.relativePath
  /-- A path is listed, and then once, exactly if it leads to something through directories alone
      and all names on it are shown. -/
  hasOnce : ∀ names : List Text, names ≠ [] → (∀ name ∈ names, name ≠ [] ∧ '/' ∉ name) →
    ((entries.map (·.relativePath)).count (pathText names) = 1 ↔
      (∃ item, d.Holds (names.map encode) item) ∧ ∀ name ∈ names, s.shows name = true)
  /-- There is nothing else. -/
  hasOnly : ∀ e ∈ entries, ∃ (names : List Text) (item : Item), d.Holds (names.map encode) item ∧
    (∀ name ∈ names, s.shows name = true) ∧ e = v.entry s root ⟨names.map encode, item⟩

/-- **What a listing has.**  Each listed path has its parents, and without ignore files the listing
    has exactly the paths on which all names are shown, in the order of their code points. -/
theorem scan_lists_exactly {v : Volume} {s : Settings} {root : Path} {way : List Bytes}
    {d : Directory} (hwell : v.top.IsWellFormed) (hs : s.fault? = none)
    (hroot : v.lookup root = .ok (.directory way d)) :
    ∃ entries, scan v s root = .ok entries ∧ IsParentClosed entries ∧
      (v.top.IsTextual → v.IsIgnoreFree way → d.IsListedBy v s root entries) := by
  obtain ⟨entries, hscan⟩ : ∃ entries, scan v s root = .ok entries :=
    ⟨_, scan_eq_ok_iff.2 ⟨hs, _, hroot, rfl⟩⟩
  refine ⟨entries, hscan, isParentClosed_scan hwell hscan, fun htext hfree => ?_⟩
  have hascends := relativePath_strictly_ascending_scan hroot hscan htext hwell
  have hnodup : (entries.map (·.relativePath)).Nodup :=
    List.pairwise_map.2 (hascends.imp fun h => ne_of_lt h)
  refine ⟨hascends, ?hasOnce, ?hasOnly⟩
  case hasOnce =>
    intro names hne hnames
    have hvalid : ∀ name ∈ names.map encode, IsName name := by
      intro name hname
      obtain ⟨text, htext, rfl⟩ := List.mem_map.1 hname
      exact isName_encode (hnames text htext).1 (hnames text htext).2
    rw [← pathText_mem_scan_iff hroot hscan htext hwell hfree hne hvalid]
    constructor
    · intro hcount
      exact List.count_pos_iff.1 (by omega)
    · intro hmem
      exact List.count_eq_one_of_mem hnodup hmem
  case hasOnly =>
    intro e he
    exact (mem_scan_iff_shows_text hroot hscan htext hfree).1 he

theorem scan_lists_exactly_sample :
    ∃ entries, scan .sample .sample (encode ".".toList) = .ok entries ∧ IsParentClosed entries ∧
      Volume.sample.top.IsListedBy .sample .sample (encode ".".toList) entries := by
  have hwell : Volume.sample.top.IsWellFormed := by decide +kernel
  have htext : Volume.sample.top.IsTextual := by decide +kernel
  have hfree : Volume.sample.IsIgnoreFree [] :=
    Volume.isIgnoreFree_of_names [] (by decide +kernel)
  have hroot : Volume.sample.lookup (encode ".".toList)
      = .ok (.directory [] Volume.sample.top) := by
    cbv
  obtain ⟨entries, hscan, hclosed, hlisted⟩ :=
    scan_lists_exactly (s := .sample) hwell (by decide) hroot
  exact ⟨entries, hscan, hclosed, hlisted htext hfree⟩

/-! ### Names that are passed over -/

/-- Nothing is listed below what is left out. -/
theorem IsParentClosed.not_mem_below {entries : List Entry} (h : IsParentClosed entries)
    {names : List Text} (hne : names ≠ [])
    (hleft : pathText names ∉ entries.map (·.relativePath)) (below : List Text) :
    pathText (names ++ below) ∉ entries.map (·.relativePath) := by
  intro hbelow
  by_cases hnil : below = []
  · rw [hnil, List.append_nil] at hbelow
    exact hleft hbelow
  · obtain ⟨e, he, hpath⟩ := List.mem_map.1 hbelow
    have hsplit : e.relativePath = pathText names ++ '/' :: pathText below := by
      rw [hpath, pathText_append hne hnil]
    obtain ⟨a, ha, hparent, -⟩ := h e he _ _ hsplit
    exact hleft (List.mem_map.2 ⟨a, ha, hparent⟩)

section PassedOver

variable {v : Volume} {s : Settings} {root : Path} {way : List Bytes} {d : Directory}
  {entries : List Entry} {names : List Text} {name : Text} {item : Item}
  (hwell : v.top.IsWellFormed) (htext : v.top.IsTextual) (hfree : v.IsIgnoreFree way)
  (hroot : v.lookup root = .ok (.directory way d)) (hscan : scan v s root = .ok entries)
  (hitem : d.Holds ((names ++ [name]).map encode) item)
  (hparent : names = [] ∨ pathText names ∈ entries.map (·.relativePath))
include hwell htext hfree hroot hscan hitem hparent

/-- All names on the way to a directory that is entered are shown. -/
theorem shows_of_entered : ∀ n ∈ names, s.shows n = true := by
  intro n hn
  rcases hparent with rfl | hparent
  · cases hn
  · have hd : d.IsWellFormed := hwell.of_mem (Volume.mem_directories_of_lookup hroot)
    have hnames : ∀ n ∈ names.map encode, IsName n := by
      intro n hn
      refine hitem.isName hd n ?_
      rw [List.map_append]
      exact List.mem_append_left _ hn
    exact ((pathText_mem_scan_iff hroot hscan htext hwell hfree (List.ne_nil_of_mem hn) hnames).1
      hparent).2 n hn

/-- In a directory that is entered, an item is listed if its name is shown. -/
theorem mem_scan_iff_shows_name :
    pathText (names ++ [name]) ∈ entries.map (·.relativePath) ↔ s.shows name = true := by
  have hd : d.IsWellFormed := hwell.of_mem (Volume.mem_directories_of_lookup hroot)
  have hentered := shows_of_entered hwell htext hfree hroot hscan hitem hparent
  rw [pathText_mem_scan_iff hroot hscan htext hwell hfree (by simp) (hitem.isName hd)]
  constructor
  · intro h
    exact h.2 name (List.mem_append_right _ List.mem_cons_self)
  · intro h
    refine ⟨⟨item, hitem⟩, fun n hn => ?_⟩
    rcases List.mem_append.1 hn with hn | hn
    · exact hentered n hn
    · rwa [List.mem_singleton.1 hn]

/-- **What is left out for its name.**  In a directory that is entered, both lists are for names of
    either sort, files and directories alike, and nothing is listed below what is left out. -/
theorem left_out_iff_passed_over (hdot : name.head? ≠ some '.') :
    (pathText (names ++ [name]) ∉ entries.map (·.relativePath) ↔
      s.ignoresDirectory name = true ∨ s.ignoresFile name = true) ∧
    (pathText (names ++ [name]) ∉ entries.map (·.relativePath) → ∀ below,
      pathText (names ++ [name] ++ below) ∉ entries.map (·.relativePath)) := by
  constructor
  · rw [mem_scan_iff_shows_name hwell htext hfree hroot hscan hitem hparent, Settings.shows]
    cases s.ignoresDirectory name <;> cases s.ignoresFile name <;> simp [hdot]
  · intro hleft below
    exact (isParentClosed_scan hwell hscan).not_mem_below (by simp) hleft below

end PassedOver

/-- A working directory with a file that has the name of a directory to pass over, and a directory
    that has the name of a file to pass over. -/
def Volume.misnamed : Volume where
  top := .file (encode "target".toList) ⟨encode "x\n".toList, []⟩
    (.directory (encode "a.png".toList)
      (.file (encode "b.rs".toList) ⟨encode "x\n".toList, []⟩ .empty)
      (.file (encode "c.rs".toList) ⟨encode "x\n".toList, []⟩ .empty))
  directorySize := 4096

/-- Only the other file is listed. -/
theorem scan_misnamed : scan .misnamed .sample (encode ".".toList) = .ok
    [⟨"./c.rs".toList, "c.rs".toList, false, 2, some 1⟩] := by
  cbv

/-- The directory is left out, and with it the file in it. -/
theorem left_out_iff_passed_over_directory :
    ∃ entries, scan .misnamed .sample (encode ".".toList) = .ok entries ∧
      Settings.sample.ignoresFile "a.png".toList = true ∧
      "a.png".toList ∉ entries.map (·.relativePath) ∧
      "a.png/b.rs".toList ∉ entries.map (·.relativePath) := by
  have hwell : Volume.misnamed.top.IsWellFormed := by decide +kernel
  have htext : Volume.misnamed.top.IsTextual := by decide +kernel
  have hfree : Volume.misnamed.IsIgnoreFree [] :=
    Volume.isIgnoreFree_of_names [] (by decide +kernel)
  have hroot : Volume.misnamed.lookup (encode ".".toList)
      = .ok (.directory [] Volume.misnamed.top) := by
    cbv
  have hitem : Volume.misnamed.top.Holds (([] ++ ["a.png".toList]).map encode) (.directory
      (.file (encode "b.rs".toList) ⟨encode "x\n".toList, []⟩ .empty)) :=
    .here (List.mem_cons_of_mem _ List.mem_cons_self)
  have hignores : Settings.sample.ignoresFile "a.png".toList = true := by cbv
  obtain ⟨hleft, hbelow⟩ := left_out_iff_passed_over hwell htext hfree hroot scan_misnamed hitem
    (Or.inl rfl) (by decide)
  have hout := hleft.2 (Or.inr hignores)
  exact ⟨_, scan_misnamed, hignores, hout, hbelow hout ["b.rs".toList]⟩

/-- A file is left out although it is not to be passed over among the files, and so is a directory
    that is not to be passed over among the directories. -/
theorem left_out_of_other_sort :
    scan .misnamed .sample (encode ".".toList) = .ok
        [⟨"./c.rs".toList, "c.rs".toList, false, 2, some 1⟩] ∧
      Volume.misnamed.top.find? (encode "target".toList)
        = some (.file ⟨encode "x\n".toList, []⟩) ∧
      Settings.sample.ignoresFile "target".toList = false ∧
      (Volume.misnamed.top.find? (encode "a.png".toList)).map Item.isDirectory = some true ∧
      Settings.sample.ignoresDirectory "a.png".toList = false :=
  ⟨scan_misnamed, by decide, by cbv, by decide, by decide⟩

end Synopsis
