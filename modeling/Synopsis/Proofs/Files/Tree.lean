import Synopsis.Files.Lookup
import Synopsis.Proofs.Text.Decoding

namespace Synopsis

/-!
# Trees of files

* `Directory.items` — what a directory holds;
* `Directory.directories` — the directories of a tree, which names and paths do not leave
  (`Directory.mem_directories_of_at?`, `Volume.mem_directories_of_lookup`);
* `Directory.IsWellFormed`, `Directory.IsTextual` — what is asked of the names in a tree;
* `Directory.Holds` — what names lead to below a directory.
-/

/-! ### Items -/

/-- Whether it is a directory; a link to one is none. -/
def Item.isDirectory : Item → Bool
  | .directory _ => true
  | .file _ | .link _ => false

/-- What a directory holds, each item with its name. -/
def Directory.items : Directory → List (Bytes × Item)
  | .empty => []
  | .file name f others => (name, .file f) :: others.items
  | .link name target others => (name, .link target) :: others.items
  | .directory name sub others => (name, .directory sub) :: others.items

/-- The names in a directory. -/
def Directory.names (d : Directory) : List Bytes := d.items.map (·.1)

theorem Directory.mem_names_of_mem_items {d : Directory} {name : Bytes} {item : Item}
    (h : (name, item) ∈ d.items) : name ∈ d.names :=
  List.mem_map_of_mem h

/-- What is found under a name is one of the items. -/
theorem Directory.mem_items_of_find? {d : Directory} {name : Bytes} {item : Item}
    (h : d.find? name = some item) : (name, item) ∈ d.items := by
  induction d with
  | empty => cases h
  | file n f others ih | link n target others ih =>
    rw [find?] at h
    split at h
    · rename_i hn
      cases h
      exact hn ▸ List.mem_cons_self
    · exact List.mem_cons_of_mem _ (ih h)
  | directory n sub others _ ih =>
    rw [find?] at h
    split at h
    · rename_i hn
      cases h
      exact hn ▸ List.mem_cons_self
    · exact List.mem_cons_of_mem _ (ih h)

/-- **Induction over a tree.**  What a directory has if all directories in it have it, every
    directory has. -/
theorem Directory.induction_items {P : Directory → Prop}
    (step : ∀ d, (∀ name sub, (name, Item.directory sub) ∈ d.items → P sub) → P d)
    (d : Directory) : P d := by
  -- The other items of a directory make no directory of the tree, so they are told of apart.
  suffices h : ∀ name sub, (name, Item.directory sub) ∈ d.items → P sub from step d h
  induction d with
  | empty => simp [items]
  | file n f others ih | link n target others ih =>
    intro name sub h
    rcases List.mem_cons.1 h with h | h
    · cases h
    · exact ih name sub h
  | directory n inner others hinner hothers =>
    intro name sub h
    rcases List.mem_cons.1 h with h | h
    · cases h
      exact step inner hinner
    · exact hothers name sub h

/-! ### The directories of a tree -/

/-- The directories below a directory. -/
def Directory.subdirectories : Directory → List Directory
  | .empty => []
  | .file _ _ others | .link _ _ others => others.subdirectories
  | .directory _ sub others => sub :: sub.subdirectories ++ others.subdirectories

/-- The directories of a tree: its top and those below. -/
def Directory.directories (d : Directory) : List Directory := d :: d.subdirectories

theorem Directory.mem_directories_self (d : Directory) : d ∈ d.directories := List.mem_cons_self

/-- A directory of the tree is its top or one of the tree below some item. -/
theorem Directory.mem_directories_iff {d e : Directory} :
    e ∈ d.directories ↔
      e = d ∨ ∃ name sub, (name, Item.directory sub) ∈ d.items ∧ e ∈ sub.directories := by
  have hbelow : e ∈ d.subdirectories ↔
      ∃ name sub, (name, Item.directory sub) ∈ d.items ∧ e ∈ sub.directories := by
    induction d with
    | empty => simp [subdirectories, items]
    | file n f others ih | link n target others ih => simpa [subdirectories, items] using ih
    | directory n inner others _ ih =>
      rw [subdirectories, List.mem_append, ih]
      constructor
      · rintro (h | ⟨name, sub, h, he⟩)
        · exact ⟨n, inner, List.mem_cons_self, h⟩
        · exact ⟨name, sub, List.mem_cons_of_mem _ h, he⟩
      · rintro ⟨name, sub, h, he⟩
        rcases List.mem_cons.1 h with h | h
        · cases h
          exact Or.inl he
        · exact Or.inr ⟨name, sub, h, he⟩
  rw [directories, List.mem_cons, hbelow]

/-- The directories of a directory of the tree are directories of the tree. -/
theorem Directory.directories_subset {d e : Directory} (h : e ∈ d.directories) :
    e.directories ⊆ d.directories := by
  induction d using Directory.induction_items with
  | step d ih =>
    rcases mem_directories_iff.1 h with rfl | ⟨name, sub, hsub, he⟩
    · exact List.Subset.refl _
    · intro x hx
      exact mem_directories_iff.2 (Or.inr ⟨name, sub, hsub, ih name sub hsub he hx⟩)

theorem Directory.mem_directories_of_mem_items {d sub : Directory} {name : Bytes}
    (h : (name, Item.directory sub) ∈ d.items) : sub ∈ d.directories :=
  mem_directories_iff.2 (Or.inr ⟨name, sub, h, sub.mem_directories_self⟩)

/-! ### Reaching directories -/

/-- Names lead to directories of the tree. -/
theorem Directory.mem_directories_of_at? {d e : Directory} {way : List Bytes}
    (h : d.at? way = some e) : e ∈ d.directories := by
  induction way generalizing d with
  | nil =>
    cases h
    exact e.mem_directories_self
  | cons name rest ih =>
    rw [at?] at h
    split at h
    · rename_i sub hsub
      exact directories_subset (mem_directories_of_mem_items (mem_items_of_find? hsub)) (ih h)
    · cases h

/-- Whether a spot is outside or within a tree. -/
def Spot.IsWithin (top : Directory) : Spot → Prop
  | .directory _ d => d ∈ top.directories
  | .file _ | .outside => True

theorem Directory.isWithin_spotAbove (top : Directory) (way : List Bytes) :
    (top.spotAbove way).IsWithin top := by
  rw [spotAbove]
  split
  · trivial
  split
  · rename_i d hd
    exact mem_directories_of_at? hd
  · trivial

/-- Following names does not leave the tree. -/
theorem Directory.isWithin_follow {top : Directory} {links : Nat} {spot spot' : Spot}
    {names : List Bytes} (hspot : spot.IsWithin top)
    (h : top.follow links spot names = .ok spot') : spot'.IsWithin top := by
  fun_induction Directory.follow top links spot names with
  | case1 =>
    cases h
    exact hspot
  | case2 | case4 | case5 | case8 | case9 | case12 => cases h
  | case3 _ _ _ _ ih => exact ih trivial h
  | case6 _ _ _ _ ih => exact ih hspot h
  | case7 _ _ way _ _ ih => exact ih (top.isWithin_spotAbove way) h
  | case10 _ _ _ _ _ _ _ _ _ _ ih => exact ih trivial h
  | case11 _ _ _ _ d _ _ _ sub hsub ih =>
    have hd : sub ∈ d.directories := mem_directories_of_mem_items (mem_items_of_find? hsub)
    exact ih (directories_subset hspot hd) h
  | case13 _ _ _ _ _ _ _ target _ _ ih =>
    refine ih ?_ h
    split
    · trivial
    · exact hspot

/-- Names lead on from a directory only if it has the first of them. -/
theorem Directory.mem_names_of_follow {top d : Directory} {links : Nat} {way rest : List Bytes}
    {name : Bytes} {spot : Spot} (hname : name ≠ here ∧ name ≠ above)
    (h : top.follow links (.directory way d) (name :: rest) = .ok spot) : name ∈ d.names := by
  rw [follow, if_neg hname.1, if_neg hname.2] at h
  split at h
  · cases h
  · cases hfind : d.find? name with
    | none =>
      rw [hfind] at h
      cases h
    | some item => exact mem_names_of_mem_items (mem_items_of_find? hfind)

/-- What a path leads to is a directory of the working directory, if it is a directory and not
    outside. -/
theorem Volume.mem_directories_of_lookup {v : Volume} {p : Path} {way : List Bytes} {d : Directory}
    (h : v.lookup p = .ok (.directory way d)) : d ∈ v.top.directories := by
  rw [lookup] at h
  split at h
  · cases h
  split at h
  · cases h
  split at h
  · cases h
  have hstart : (if p.isAbsolute then Spot.outside else .directory [] v.top).IsWithin v.top := by
    split
    · trivial
    · exact v.top.mem_directories_self
  exact Directory.isWithin_follow hstart h

/-- The file that a path leads to is where the path leads. -/
theorem Volume.file_eq_ok_iff {v : Volume} {p : Path} {f : File} :
    v.file p = .ok f ↔ v.lookup p = .ok (.file f) := by
  rw [file]
  cases v.lookup p with
  | error fault =>
    constructor <;> intro h <;> cases h
  | ok spot =>
    cases spot with
    | file g => exact ⟨fun h => by cases h; rfl, fun h => by cases h; rfl⟩
    | directory way d => constructor <;> intro h <;> cases h
    | outside => constructor <;> intro h <;> cases h

/-! ### Names -/

/-- A name is not empty and has no slash. -/
def IsName (name : Bytes) : Prop := name ≠ [] ∧ slash ∉ name

instance (name : Bytes) : Decidable (IsName name) := inferInstanceAs (Decidable (_ ∧ _))

/-- A tree as file systems hold them. -/
structure Directory.IsWellFormed (d : Directory) : Prop where
  /-- What stands in a directory has a name. -/
  isName : ∀ e ∈ d.directories, ∀ name ∈ e.names, IsName name
  /-- No two items of a directory have the same name. -/
  nodup : ∀ e ∈ d.directories, e.names.Nodup

/-- Every name in the tree is text. -/
def Directory.IsTextual (d : Directory) : Prop :=
  ∀ e ∈ d.directories, ∀ name ∈ e.names, IsText name

instance (d : Directory) : Decidable d.IsWellFormed :=
  decidable_of_iff ((∀ e ∈ d.directories, ∀ name ∈ e.names, IsName name) ∧
      ∀ e ∈ d.directories, e.names.Nodup)
    ⟨fun h => ⟨h.1, h.2⟩, fun h => ⟨h.isName, h.nodup⟩⟩

instance (d : Directory) : Decidable d.IsTextual :=
  inferInstanceAs (Decidable (∀ e ∈ d.directories, ∀ name ∈ e.names, IsText name))

theorem Directory.IsWellFormed.of_mem {d e : Directory} (h : d.IsWellFormed)
    (he : e ∈ d.directories) : e.IsWellFormed :=
  ⟨fun x hx => h.isName x (directories_subset he hx),
    fun x hx => h.nodup x (directories_subset he hx)⟩

theorem Directory.IsTextual.of_mem {d e : Directory} (h : d.IsTextual)
    (he : e ∈ d.directories) : e.IsTextual :=
  fun x hx => h x (directories_subset he hx)

/-! ### Paths below a directory -/

/-- What names lead to below a directory.  All names but the last are those of directories; a link
    leads no further. -/
inductive Directory.Holds : Directory → List Bytes → Item → Prop where
  /-- An item of the directory itself. -/
  | here {d : Directory} {name : Bytes} {item : Item} :
    (name, item) ∈ d.items → d.Holds [name] item
  /-- An item further below. -/
  | under {d sub : Directory} {name : Bytes} {names : List Bytes} {item : Item} :
    (name, Item.directory sub) ∈ d.items → sub.Holds names item → d.Holds (name :: names) item

namespace Directory.Holds

variable {d : Directory} {names p q : List Bytes} {item : Item}

theorem ne_nil (h : d.Holds names item) : names ≠ [] := by
  cases h <;> exact List.cons_ne_nil _ _

/-- The names on the way are names in directories of the tree. -/
theorem exists_names (h : d.Holds names item) :
    ∀ name ∈ names, ∃ e ∈ d.directories, name ∈ e.names := by
  induction h with
  | @here d n i hitem =>
    intro name hname
    obtain rfl := List.mem_singleton.1 hname
    exact ⟨d, d.mem_directories_self, mem_names_of_mem_items hitem⟩
  | @under d sub n rest i hsub _ ih =>
    intro name hname
    rcases List.mem_cons.1 hname with rfl | hname
    · exact ⟨d, d.mem_directories_self, mem_names_of_mem_items hsub⟩
    · obtain ⟨e, he, hmem⟩ := ih name hname
      exact ⟨e, directories_subset (mem_directories_of_mem_items hsub) he, hmem⟩

theorem isName (h : d.Holds names item) (hd : d.IsWellFormed) : ∀ name ∈ names, IsName name := by
  intro name hname
  obtain ⟨e, he, hmem⟩ := h.exists_names name hname
  exact hd.isName e he name hmem

theorem isText (h : d.Holds names item) (hd : d.IsTextual) : ∀ name ∈ names, IsText name := by
  intro name hname
  obtain ⟨e, he, hmem⟩ := h.exists_names name hname
  exact hd e he name hmem

/-- Wherever the way is cut, it leads through a directory. -/
theorem split (h : d.Holds (p ++ q) item) (hp : p ≠ []) (hq : q ≠ []) :
    ∃ sub, d.Holds p (.directory sub) ∧ sub.Holds q item := by
  induction p generalizing d with
  | nil => exact absurd rfl hp
  | cons name p ih =>
    rw [List.cons_append] at h
    generalize hrest : p ++ q = rest at h
    cases h with
    | here hitem => simp [hq] at hrest
    | @under _ sub _ _ _ hsub hbelow =>
      subst hrest
      cases p with
      | nil => exact ⟨sub, .here hsub, hbelow⟩
      | cons name' p =>
        obtain ⟨e, he, hitem⟩ := ih hbelow (List.cons_ne_nil _ _)
        exact ⟨e, .under hsub he, hitem⟩

end Directory.Holds

end Synopsis
