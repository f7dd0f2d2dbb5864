import Synopsis.Ignore.Layer
import Synopsis.Listing.Scan
import Synopsis.Proofs.Files.Tree

namespace Synopsis

/-!
# Names joined to paths

* `pathText` — names as the text of a path;
* `splitOn_decodeLossy_joinNames` — the names are read back from the text of a path;
* `exists_names_of_decodeLossy_eq` — what stands before a slash there is the text of a path, too;
* `joinNames_map_encode`, `IsText.extend` — paths of names that are text are text;
* `eq_of_decodeLossy_joinNames_eq` — and they are different for different names.
-/

/-- Names as the text of a path. -/
def pathText (names : List Text) : Text := ['/'].intercalate names

/-- A path goes on behind a slash. -/
theorem pathText_append {names below : List Text} (hne : names ≠ []) (hbelow : below ≠ []) :
    pathText (names ++ below) = pathText names ++ '/' :: pathText below := by
  induction names with
  | nil => exact absurd rfl hne
  | cons name rest ih =>
    cases rest with
    | nil =>
      have hcons : pathText (name :: below) = name ++ ['/'] ++ pathText below :=
        List.intercalate_cons_of_ne_nil hbelow
      have hsingle : pathText [name] = name := List.intercalate_singleton
      rw [List.singleton_append, hcons, hsingle, List.append_assoc, List.singleton_append]
    | cons name' rest =>
      have hcons : ∀ others : List Text, pathText (name :: name' :: others)
          = name ++ ['/'] ++ pathText (name' :: others) := fun others =>
        List.intercalate_cons_cons
      rw [List.cons_append, List.cons_append, hcons, hcons, ← List.cons_append,
        ih (List.cons_ne_nil _ _), List.append_assoc _ (pathText _)]

/-! ### Names of any bytes -/

/-- The text of a path, cut at its slashes, has the texts of the names. -/
theorem splitOn_decodeLossy_joinNames {names : List Bytes} (hne : names ≠ [])
    (hnames : ∀ name ∈ names, slash ∉ name) :
    (decodeLossy (joinNames names)).splitOn '/' = names.map decodeLossy := by
  have hcut : (decodeLossy (joinNames names)).splitOn '/'
      = ((joinNames names).splitOn slash).map decodeLossy :=
    splitOn_decodeLossy (b := slash) (by decide) (by decide) (joinNames names)
  rw [hcut, joinNames, List.splitOn_intercalate slash hnames hne]

/-- Texts of paths are the same only if the texts of the names are. -/
theorem map_decodeLossy_eq_of_decodeLossy_joinNames_eq {names names' : List Bytes}
    (hne : names ≠ []) (hne' : names' ≠ []) (hnames : ∀ name ∈ names, slash ∉ name)
    (hnames' : ∀ name ∈ names', slash ∉ name)
    (h : decodeLossy (joinNames names) = decodeLossy (joinNames names')) :
    names.map decodeLossy = names'.map decodeLossy := by
  rw [← splitOn_decodeLossy_joinNames hne hnames, h, splitOn_decodeLossy_joinNames hne' hnames']

/-- The text of a path is put together from the texts of the names. -/
theorem decodeLossy_joinNames {names : List Bytes} (hne : names ≠ [])
    (hnames : ∀ name ∈ names, slash ∉ name) :
    decodeLossy (joinNames names) = pathText (names.map decodeLossy) := by
  rw [← splitOn_decodeLossy_joinNames hne hnames, pathText, List.intercalate_splitOn]

/-- **What stands before a slash of a path's text is the text of the first names.** -/
theorem exists_names_of_decodeLossy_eq {names : List Bytes} (hne : names ≠ [])
    (hnames : ∀ name ∈ names, slash ∉ name) {p r : Text}
    (h : decodeLossy (joinNames names) = p ++ '/' :: r) :
    ∃ first rest, names = first ++ rest ∧ first ≠ [] ∧ rest ≠ [] ∧
      decodeLossy (joinNames first) = p := by
  have hpieces : names.map decodeLossy = p.splitOn '/' ++ r.splitOn '/' := by
    rw [← splitOn_decodeLossy_joinNames hne hnames, h, List.splitOn_append_cons_self]
  obtain ⟨first, rest, rfl, hfirst, hrest⟩ := List.map_eq_append_iff.1 hpieces
  have hfirst_ne : first ≠ [] := by
    rintro rfl
    exact List.splitOn_ne_nil '/' p hfirst.symm
  have hrest_ne : rest ≠ [] := by
    rintro rfl
    exact List.splitOn_ne_nil '/' r hrest.symm
  have hslash : ∀ name ∈ first, slash ∉ name := fun name hname =>
    hnames name (List.mem_append_left rest hname)
  refine ⟨first, rest, rfl, hfirst_ne, hrest_ne, ?_⟩
  rw [decodeLossy_joinNames hfirst_ne hslash, hfirst, pathText, List.intercalate_splitOn]

/-! ### Names that are text -/

/-- Names that are text, joined, are the bytes of the path's text. -/
theorem joinNames_map_encode (names : List Text) :
    joinNames (names.map encode) = encode (pathText names) := by
  induction names with
  | nil => rfl
  | cons name rest ih =>
    cases rest with
    | nil => simp [joinNames, pathText]
    | cons name' rest =>
      have hbytes : joinNames ((name :: name' :: rest).map encode)
          = encode name ++ [slash] ++ joinNames ((name' :: rest).map encode) :=
        List.intercalate_cons_cons
      have htext : pathText (name :: name' :: rest)
          = name ++ ['/'] ++ pathText (name' :: rest) :=
        List.intercalate_cons_cons
      have hslash : encode ['/'] = [slash] := rfl
      rw [hbytes, htext, ih, encode_append, encode_append, hslash]

/-- Names that are text come from texts. -/
theorem exists_map_encode {names : List Bytes} (h : ∀ name ∈ names, IsText name) :
    ∃ texts : List Text, names = texts.map encode := by
  refine ⟨names.map decodeLossy, ?_⟩
  rw [List.map_map, List.map_congr_left (g := id), List.map_id]
  intro name hname
  exact (h name hname).encode_decodeLossy

theorem decodeLossy_joinNames_map_encode (names : List Text) :
    decodeLossy (joinNames (names.map encode)) = pathText names := by
  rw [joinNames_map_encode, decodeLossy_encode]

/-- A path that is text, continued by names that are text, is text. -/
theorem IsText.extend {p : Path} (hp : IsText p) {names : List Bytes}
    (hnames : ∀ name ∈ names, IsText name) : IsText (p.extend names) := by
  obtain ⟨texts, rfl⟩ := exists_map_encode hnames
  have hjoined : IsText (joinNames (texts.map encode)) :=
    ⟨pathText texts, (joinNames_map_encode texts).symm⟩
  have hslash : IsText [slash] := ⟨['/'], rfl⟩
  rw [Path.extend]
  split
  · exact hp.append hjoined
  · exact (hp.append hslash).append hjoined

/-- A text without a slash has bytes without one. -/
theorem isName_encode {name : Text} (hne : name ≠ []) (hslash : '/' ∉ name) :
    IsName (encode name) := by
  constructor
  · intro h
    have hdecoded : decodeLossy (encode name) = [] := by rw [h]; rfl
    rw [decodeLossy_encode] at hdecoded
    exact hne hdecoded
  · intro h
    obtain ⟨before, after, hbytes⟩ := List.append_of_mem h
    have hdecoded : name = decodeLossy before ++ '/' :: decodeLossy after := by
      rw [← decodeLossy_encode name, hbytes]
      exact decodeLossy_append_cons (b := slash) (by decide) before after
    exact hslash (hdecoded ▸ List.mem_append_right _ List.mem_cons_self)

/-- Different names that are text make paths of different text. -/
theorem eq_of_decodeLossy_joinNames_eq {names names' : List Bytes} (hne : names ≠ [])
    (hne' : names' ≠ []) (hnames : ∀ name ∈ names, IsName name)
    (hnames' : ∀ name ∈ names', IsName name) (htext : ∀ name ∈ names, IsText name)
    (htext' : ∀ name ∈ names', IsText name)
    (h : decodeLossy (joinNames names) = decodeLossy (joinNames names')) : names = names' := by
  obtain ⟨texts, rfl⟩ := exists_map_encode htext
  obtain ⟨texts', rfl⟩ := exists_map_encode htext'
  have hdecoded : (texts.map encode).map decodeLossy = (texts'.map encode).map decodeLossy :=
    map_decodeLossy_eq_of_decodeLossy_joinNames_eq hne hne'
      (fun name hname => (hnames name hname).2) (fun name hname => (hnames' name hname).2) h
  have hid : decodeLossy ∘ encode = id := funext decodeLossy_encode
  rw [List.map_map, List.map_map, hid, List.map_id, List.map_id] at hdecoded
  rw [hdecoded]

/-! ### Hidden names -/

/-- A name begins with a dot exactly if its text does. -/
theorem isHidden_iff {name : Bytes} :
    isHidden name = true ↔ (decodeLossy name).head? = some '.' := by
  rw [isHidden, decide_eq_true_eq]
  constructor
  · intro h
    obtain ⟨rest, rfl⟩ := List.head?_eq_some_iff.1 h
    have hdot : decodeLossy (dot :: rest) = '.' :: decodeLossy rest :=
      decodeLossy_append_cons (b := dot) (by decide) [] rest
    rw [hdot]
    rfl
  · intro h
    obtain ⟨rest, hrest⟩ := List.head?_eq_some_iff.1 h
    have hcut : (decodeLossy name).splitOn '.' = (name.splitOn dot).map decodeLossy :=
      splitOn_decodeLossy (b := dot) (by decide) (by decide) name
    -- Before the dot at the start stands an empty piece, and behind it at least one piece more.
    have hpieces : ([] : Text).splitOn '.' ++ rest.splitOn '.'
        = (name.splitOn dot).map decodeLossy := by
      rw [← hcut, hrest, ← List.splitOn_append_cons_self, List.nil_append]
    obtain ⟨first, others, hname, hfirst, hothers⟩ := List.map_eq_append_iff.1 hpieces.symm
    obtain ⟨piece, rfl, hpiece⟩ := List.map_eq_singleton_iff.1 hfirst
    have hothers_ne : others ≠ [] := by
      rintro rfl
      exact List.splitOn_ne_nil '.' rest hothers.symm
    have hjoined : [dot].intercalate (name.splitOn dot) = name := List.intercalate_splitOn dot
    rw [← hjoined, hname, List.singleton_append, List.intercalate_cons_of_ne_nil hothers_ne,
      decodeLossy_eq_nil_iff.1 hpiece]
    rfl

end Synopsis
