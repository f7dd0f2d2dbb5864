import Mathlib.Data.List.Nodup
import Synopsis.Listing.Walk
import Synopsis.Proofs.Files.Tree

namespace Synopsis

/-!
# What a walk finds

A walk goes down the items of a directory and cuts off what is not admitted.  It comes down to a
condition on one path at a time.

* `IsAdmitted` — all that leads to an item is admitted;
* `Directory.mem_walk_iff` — what is found is what the directory holds and is admitted to;
* `Directory.exists_directory_mem_walk` — the directories on the way are found;
* `Directory.walk_sublist` — admitting less only leaves out;
* `Directory.nodup_names_walk` — nothing is found twice.
-/

variable {admits admits' : List Bytes → Bool → Bool}

/-! ### Item by item -/

/-- All that is admitted below an item which `way` leads to. -/
def Item.contents (admits : List Bytes → Bool → Bool) (way : List Bytes) : Item → List Found
  | .directory sub => sub.walk admits way
  | .file _ | .link _ => []

/-- An item which `way` leads to, and all that is admitted below it, if the item is admitted. -/
def Item.walk (admits : List Bytes → Bool → Bool) (way : List Bytes) (item : Item) : List Found :=
  if admits way item.isDirectory then ⟨way, item⟩ :: item.contents admits way else []

/-- A walk goes through the items of a directory one after the other. -/
theorem Directory.walk_eq_flatMap (admits : List Bytes → Bool → Bool) (way : List Bytes)
    (d : Directory) :
    d.walk admits way = d.items.flatMap fun p => p.2.walk admits (way ++ [p.1]) := by
  induction d with
  | empty => rfl
  | file n f others ih | link n target others ih =>
    rw [walk, ih, items, List.flatMap_cons]
    rfl
  | directory n sub others _ ih =>
    rw [walk, ih, items, List.flatMap_cons]
    rfl

theorem Item.mem_walk_iff {way : List Bytes} {item : Item} {found : Found} :
    found ∈ item.walk admits way ↔
      admits way item.isDirectory = true ∧
        (found = ⟨way, item⟩ ∨ found ∈ item.contents admits way) := by
  rw [walk]
  split <;> simp [*]

/-- What a walk finds in a directory are the admitted items, and what it finds below those. -/
theorem Directory.mem_walk_iff_items {way : List Bytes} {d : Directory} {found : Found} :
    found ∈ d.walk admits way ↔ ∃ name item, (name, item) ∈ d.items ∧
      admits (way ++ [name]) item.isDirectory = true ∧
      (found = ⟨way ++ [name], item⟩ ∨ found ∈ item.contents admits (way ++ [name])) := by
  rw [walk_eq_flatMap, List.mem_flatMap]
  simp only [Item.mem_walk_iff, Prod.exists]

/-! ### All that is found -/

/-- Whether all that leads to an item is admitted, each directory on the way and the item itself. -/
def IsAdmitted (admits : List Bytes → Bool → Bool) (way names : List Bytes) (isDirectory : Bool) :
    Prop :=
  ∀ p, p ≠ [] → p <+: names → admits (way ++ p) (p ≠ names || isDirectory) = true

theorem isAdmitted_singleton {way : List Bytes} {name : Bytes} {isDirectory : Bool} :
    IsAdmitted admits way [name] isDirectory ↔ admits (way ++ [name]) isDirectory = true := by
  constructor
  · intro h
    simpa using h [name] (List.cons_ne_nil _ _) List.prefix_rfl
  · intro h p hp hpre
    have hp : p = [name] := by
      rcases List.prefix_cons_iff.1 hpre with rfl | ⟨t, rfl, ht⟩
      · exact absurd rfl hp
      · rw [List.prefix_nil.1 ht]
    simpa [hp] using h

theorem isAdmitted_cons {way names : List Bytes} {name : Bytes} {isDirectory : Bool}
    (hne : names ≠ []) :
    IsAdmitted admits way (name :: names) isDirectory ↔
      admits (way ++ [name]) true = true ∧ IsAdmitted admits (way ++ [name]) names isDirectory := by
  constructor
  · intro h
    constructor
    · have hfirst := h [name] (List.cons_ne_nil _ _) (List.prefix_append [name] names)
      simpa [hne.symm] using hfirst
    · intro p hp hpre
      have hrest := h (name :: p) (List.cons_ne_nil _ _) (List.cons_prefix_cons.2 ⟨rfl, hpre⟩)
      simpa using hrest
  · rintro ⟨hfirst, hrest⟩ p hp hpre
    rcases List.prefix_cons_iff.1 hpre with rfl | ⟨t, rfl, ht⟩
    · exact absurd rfl hp
    · cases t with
      | nil => simpa [hne.symm] using hfirst
      | cons name' t => simpa using hrest (name' :: t) (List.cons_ne_nil _ _) ht

/-- **What a walk finds**: all that the directory holds and to which it is admitted. -/
theorem Directory.mem_walk_iff {way : List Bytes} {d : Directory} {found : Found} :
    found ∈ d.walk admits way ↔ ∃ names item, d.Holds names item ∧
      IsAdmitted admits way names item.isDirectory ∧ found = ⟨way ++ names, item⟩ := by
  constructor
  · intro h
    induction d using Directory.induction_items generalizing way with
    | step d ih =>
      obtain ⟨name, item, hitem, hadmits, rfl | hbelow⟩ := mem_walk_iff_items.1 h
      · exact ⟨[name], item, .here hitem, isAdmitted_singleton.2 hadmits, rfl⟩
      · cases item with
        | file f => cases hbelow
        | link target => cases hbelow
        | directory sub =>
          obtain ⟨names, item, hholds, hadmitted, rfl⟩ := ih name sub hitem hbelow
          exact ⟨name :: names, item, .under hitem hholds,
            (isAdmitted_cons hholds.ne_nil).2 ⟨hadmits, hadmitted⟩, by simp⟩
  · rintro ⟨names, item, hholds, hadmitted, rfl⟩
    induction hholds generalizing way with
    | @here d name item hitem =>
      exact mem_walk_iff_items.2
        ⟨name, item, hitem, isAdmitted_singleton.1 hadmitted, Or.inl rfl⟩
    | @under d sub name names item hitem hholds ih =>
      obtain ⟨hfirst, hrest⟩ := (isAdmitted_cons hholds.ne_nil).1 hadmitted
      have hfound := ih hrest
      rw [List.append_assoc, List.singleton_append] at hfound
      exact mem_walk_iff_items.2 ⟨name, .directory sub, hitem, hfirst, Or.inr hfound⟩

/-- **A walk finds the directories on the way** to all that it finds. -/
theorem Directory.exists_directory_mem_walk {way p q : List Bytes} {d : Directory} {item : Item}
    (h : (⟨way ++ (p ++ q), item⟩ : Found) ∈ d.walk admits way) (hp : p ≠ []) (hq : q ≠ []) :
    ∃ sub, (⟨way ++ p, .directory sub⟩ : Found) ∈ d.walk admits way := by
  obtain ⟨names, item', hholds, hadmitted, heq⟩ := mem_walk_iff.1 h
  obtain ⟨hnames, rfl⟩ := Found.mk.inj heq
  obtain rfl := List.append_cancel_left hnames
  obtain ⟨sub, hsub, -⟩ := hholds.split hp hq
  refine ⟨sub, mem_walk_iff.2 ⟨p, .directory sub, hsub, fun x hx hpre => ?_, rfl⟩⟩
  -- What leads to the directory leads on to the item, and is not all of it.
  have hne : x ≠ p ++ q := by
    rintro rfl
    have hlength := hpre.length_le
    rw [List.length_append] at hlength
    have hpos := List.length_pos_of_ne_nil hq
    omega
  have hway := hadmitted x hx (hpre.trans (List.prefix_append p q))
  simpa [hne, Item.isDirectory] using hway

/-- **Admitting less leaves out some of what a walk finds**, and changes nothing else. -/
theorem Directory.walk_sublist
    (h : ∀ names isDirectory, admits' names isDirectory = true → admits names isDirectory = true)
    (way : List Bytes) (d : Directory) : (d.walk admits' way).Sublist (d.walk admits way) := by
  induction d generalizing way with
  | empty => exact List.Sublist.refl _
  | file name f others ih | link name target others ih =>
    refine List.Sublist.append ?_ (ih way)
    split
    · rename_i hadmits
      rw [if_pos (h _ _ hadmits)]
    · exact List.nil_sublist _
  | directory name sub others hsub hothers =>
    refine List.Sublist.append ?_ (hothers way)
    split
    · rename_i hadmits
      rw [if_pos (h _ _ hadmits)]
      exact (hsub _).cons_cons _
    · exact List.nil_sublist _

/-! ### Nothing is found twice -/

/-- What a walk finds below an item has longer names than the item. -/
theorem Item.exists_names_of_mem_contents {way : List Bytes} {item : Item} {found : Found}
    (h : found ∈ item.contents admits way) : ∃ names, names ≠ [] ∧ found.names = way ++ names := by
  cases item with
  | file f => cases h
  | link target => cases h
  | directory sub =>
    obtain ⟨names, item, hholds, -, rfl⟩ := Directory.mem_walk_iff.1 h
    exact ⟨names, hholds.ne_nil, rfl⟩

/-- The names of all that a walk finds through an item begin with those of the item. -/
theorem Item.prefix_names_of_mem_walk {way : List Bytes} {item : Item} {found : Found}
    (h : found ∈ item.walk admits way) : way <+: found.names := by
  obtain ⟨-, rfl | h⟩ := Item.mem_walk_iff.1 h
  · exact List.prefix_rfl
  · obtain ⟨names, -, hnames⟩ := Item.exists_names_of_mem_contents h
    rw [hnames]
    exact List.prefix_append way names

/-- If no two items of a directory have the same name, nothing is found twice. -/
theorem Directory.nodup_names_walk {d : Directory} (h : ∀ e ∈ d.directories, e.names.Nodup)
    (way : List Bytes) : ((d.walk admits way).map (·.names)).Nodup := by
  induction d using Directory.induction_items generalizing way with
  | step d ih =>
    rw [walk_eq_flatMap, List.map_flatMap, List.nodup_flatMap]
    constructor
    · -- Through one item: below it all names are longer, and there nothing is found twice.
      rintro ⟨name, item⟩ hitem
      have hcontents : ((item.contents admits (way ++ [name])).map (·.names)).Nodup := by
        cases item with
        | file f => exact List.nodup_nil
        | link target => exact List.nodup_nil
        | directory sub =>
          have hsub := directories_subset (mem_directories_of_mem_items hitem)
          exact ih name sub hitem (fun e he => h e (hsub he)) (way ++ [name])
      rw [Item.walk]
      split
      · rw [List.map_cons, List.nodup_cons]
        refine ⟨fun hmem => ?_, hcontents⟩
        obtain ⟨found, hfound, hnames⟩ := List.mem_map.1 hmem
        obtain ⟨names, hne, hlonger⟩ := Item.exists_names_of_mem_contents hfound
        rw [hlonger] at hnames
        exact hne (by simpa using hnames)
      · exact List.nodup_nil
    · -- Through two items: the names of what is found go on with those of the items.
      have hnames : d.items.Pairwise fun p q => p.1 ≠ q.1 :=
        List.pairwise_map.1 (h d d.mem_directories_self)
      refine hnames.imp fun {p q} hne names hp hq => ?_
      obtain ⟨found, hfound, rfl⟩ := List.mem_map.1 hp
      obtain ⟨found', hfound', heq⟩ := List.mem_map.1 hq
      have hpre := Item.prefix_names_of_mem_walk hfound
      have hpre' := Item.prefix_names_of_mem_walk hfound'
      rw [heq] at hpre'
      have hlength : (way ++ [p.1]).length = (way ++ [q.1]).length := by simp
      have hways : way ++ [p.1] = way ++ [q.1] :=
        (List.prefix_of_prefix_length_le hpre hpre' (Nat.le_of_eq hlength)).eq_of_length hlength
      exact hne (by simpa using hways)

end Synopsis
