import Synopsis.Outline.Assembler

namespace Synopsis

/-!
# The order of captures

An outline follows the first rows of its captures.  Captures that start on the same row stand
in the order in which they were given.

* `InStartOrder` — that order, as a property of two lists;
* `inStartOrder_byStartRow` — sorting by first rows establishes it;
* `InStartOrder.unique` — no other list has it;
* `byStartRow_congr` — hence the order of captures on different rows is of no account.
-/

/-- The second list holds the captures of the first one in the order of an outline. -/
structure InStartOrder (cs ordered : List Capture) : Prop where
  /-- First rows ascend. -/
  ascending : ordered.Pairwise fun a b => a.startRow ≤ b.startRow
  /-- The captures that start on a row are those given for it, in their given order. -/
  rows : ∀ row, ordered.filter (·.startRow = row) = cs.filter (·.startRow = row)

/-- Nothing is lost, and nothing is added. -/
theorem InStartOrder.perm {cs ordered : List Capture} (h : InStartOrder cs ordered) :
    ordered.Perm cs := by
  rw [List.perm_iff_count]
  intro c
  have hrow := congrArg (List.count c) (h.rows c.startRow)
  rwa [List.count_filter (by simp), List.count_filter (by simp)] at hrow

/-! ### Sorting -/

theorem startRow_le_trans (a b c : Capture) (hab : decide (a.startRow ≤ b.startRow) = true)
    (hbc : decide (b.startRow ≤ c.startRow) = true) :
    decide (a.startRow ≤ c.startRow) = true := by
  simp only [decide_eq_true_eq] at hab hbc ⊢
  omega

theorem startRow_le_total (a b : Capture) :
    (decide (a.startRow ≤ b.startRow) || decide (b.startRow ≤ a.startRow)) = true := by
  simp only [Bool.or_eq_true, decide_eq_true_eq]
  omega

theorem byStartRow_perm (cs : List Capture) : (byStartRow cs).Perm cs :=
  List.mergeSort_perm cs _

theorem byStartRow_ascending (cs : List Capture) :
    (byStartRow cs).Pairwise fun a b => a.startRow ≤ b.startRow := by
  have h := List.pairwise_mergeSort startRow_le_trans startRow_le_total cs
  simpa only [byStartRow, decide_eq_true_eq] using h

/-- Sorting keeps the order of captures that start on the same row. -/
theorem filter_byStartRow (cs : List Capture) (row : Nat) :
    (byStartRow cs).filter (·.startRow = row) = cs.filter (·.startRow = row) := by
  -- The captures of one row are in order already, so they survive as a sublist.
  have hsub : (cs.filter (·.startRow = row)).Sublist (byStartRow cs) := by
    refine List.sublist_mergeSort startRow_le_trans startRow_le_total ?_ List.filter_sublist
    rw [List.pairwise_filter]
    refine List.pairwise_of_forall fun a b ha hb => ?_
    simp only [decide_eq_true_eq] at ha hb ⊢
    omega
  have hrow := hsub.filter (·.startRow = row)
  rw [List.filter_filter] at hrow
  simp only [Bool.and_self] at hrow
  exact (hrow.eq_of_length ((byStartRow_perm cs).filter _).length_eq.symm).symm

theorem inStartOrder_byStartRow (cs : List Capture) : InStartOrder cs (byStartRow cs) :=
  ⟨byStartRow_ascending cs, filter_byStartRow cs⟩

/-! ### Uniqueness -/

/-- Two lists in ascending order that agree on every row agree. -/
theorem eq_of_ascending_of_rows {l l' : List Capture}
    (hl : l.Pairwise fun a b => a.startRow ≤ b.startRow)
    (hl' : l'.Pairwise fun a b => a.startRow ≤ b.startRow)
    (h : ∀ row, l.filter (·.startRow = row) = l'.filter (·.startRow = row)) : l = l' := by
  induction l generalizing l' with
  | nil =>
    cases l' with
    | nil => rfl
    | cons b rest' => simpa using h b.startRow
  | cons a rest ih =>
    cases l' with
    | nil => simpa using h a.startRow
    | cons b rest' =>
      rw [List.pairwise_cons] at hl hl'
      -- Each head stands in the other list, so neither row is below the other.
      have ha : a ∈ b :: rest' := by
        have hmem : a ∈ (a :: rest).filter (·.startRow = a.startRow) := by simp
        rw [h a.startRow] at hmem
        exact (List.mem_filter.1 hmem).1
      have hb : b ∈ a :: rest := by
        have hmem : b ∈ (b :: rest').filter (·.startRow = b.startRow) := by simp
        rw [← h b.startRow] at hmem
        exact (List.mem_filter.1 hmem).1
      have hrow : a.startRow = b.startRow := by
        rcases List.mem_cons.1 ha with rfl | ha
        · rfl
        · rcases List.mem_cons.1 hb with rfl | hb
          · rfl
          · exact Nat.le_antisymm (hl.1 b hb) (hl'.1 a ha)
      -- Both heads are then the first capture of their row.
      have hab : a = b := by
        have hfirst := h a.startRow
        rw [List.filter_cons_of_pos (by simp), List.filter_cons_of_pos (by simp [hrow])] at hfirst
        exact (List.cons.inj hfirst).1
      subst hab
      rw [ih hl.2 hl'.2 fun row => ?_]
      have hrest := h row
      rw [List.filter_cons, List.filter_cons] at hrest
      split at hrest
      · exact (List.cons.inj hrest).2
      · exact hrest

/-- The order of an outline determines the list. -/
theorem InStartOrder.unique {cs ordered ordered' : List Capture} (h : InStartOrder cs ordered)
    (h' : InStartOrder cs ordered') : ordered = ordered' :=
  eq_of_ascending_of_rows h.ascending h'.ascending fun row => (h.rows row).trans (h'.rows row).symm

/-- Only the order of the captures on each single row is of account. -/
theorem byStartRow_congr {cs ds : List Capture}
    (h : ∀ row, cs.filter (·.startRow = row) = ds.filter (·.startRow = row)) :
    byStartRow cs = byStartRow ds :=
  (inStartOrder_byStartRow cs).unique
    ⟨byStartRow_ascending ds, fun row => (filter_byStartRow ds row).trans (h row).symm⟩

end Synopsis
