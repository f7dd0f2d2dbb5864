namespace Synopsis

/-!
# Sorting

Stable sorting orders elements two by two: what becomes of some of them does not depend on the
others.

* `mergeSort_sublist_mergeSort` — elements keep their order when others are left out;
* `mergeSort_filter` — so leaving out and sorting may change places.
-/

variable {α : Type} {le : α → α → Bool}
  (htrans : ∀ a b c, le a b = true → le b c = true → le a c = true)
  (htotal : ∀ a b, (le a b || le b a) = true)

include htrans htotal

/-- An element keeps its place among sorted elements when some of these are left out. -/
theorem mergeSort_sublist_mergeSort {l l' : List α} (h : l'.Sublist l) :
    (l'.mergeSort le).Sublist (l.mergeSort le) := by
  induction h with
  | slnil => exact List.Sublist.refl _
  | @cons l' l a _ ih =>
    obtain ⟨before, after, hall, hothers, -⟩ := List.mergeSort_cons htrans htotal a l
    rw [hall]
    rw [hothers] at ih
    exact ih.trans ((List.sublist_cons_self a after).append_left before)
  | @cons_cons l' l a _ ih =>
    obtain ⟨before, after, hall, hothers, hbefore⟩ := List.mergeSort_cons htrans htotal a l
    obtain ⟨before', after', hall', hothers', hbefore'⟩ := List.mergeSort_cons htrans htotal a l'
    have hsorted := List.pairwise_mergeSort htrans htotal (a :: l)
    have hsorted' := List.pairwise_mergeSort htrans htotal (a :: l')
    rw [hall, List.pairwise_append, List.pairwise_cons] at hsorted
    rw [hall', List.pairwise_append, List.pairwise_cons] at hsorted'
    rw [hothers, hothers'] at ih
    -- In both lists the element parts those that it comes before from those that it does not.
    have hparts : ∀ xs ys : List α, (∀ b ∈ xs, (!le a b) = true) → (∀ b ∈ ys, le a b = true) →
        (xs ++ ys).filter (!le a ·) = xs ∧ (xs ++ ys).filter (le a ·) = ys := by
      intro xs ys hxs hys
      have hys' : ys.filter (!le a ·) = [] := List.filter_eq_nil_iff.2 fun b hb => by
        simp [hys b hb]
      have hxs' : xs.filter (le a ·) = [] := List.filter_eq_nil_iff.2 fun b hb => by
        simpa using hxs b hb
      rw [List.filter_append, List.filter_append, List.filter_eq_self.2 hxs,
        List.filter_eq_self.2 hys, hxs', hys', List.append_nil, List.nil_append]
      exact ⟨rfl, rfl⟩
    obtain ⟨hlow, hhigh⟩ := hparts before after hbefore hsorted.2.1.1
    obtain ⟨hlow', hhigh'⟩ := hparts before' after' hbefore' hsorted'.2.1.1
    have hbefore_sub : before'.Sublist before := by
      rw [← hlow, ← hlow']
      exact ih.filter _
    have hafter_sub : after'.Sublist after := by
      rw [← hhigh, ← hhigh']
      exact ih.filter _
    rw [hall, hall']
    exact hbefore_sub.append (hafter_sub.cons_cons a)

/-- Some elements are sorted by sorting all of them. -/
theorem mergeSort_filter (p : α → Bool) (l : List α) :
    (l.filter p).mergeSort le = (l.mergeSort le).filter p := by
  have hsub := (mergeSort_sublist_mergeSort htrans htotal (l.filter_sublist (p := p))).filter p
  have hall : ((l.filter p).mergeSort le).filter p = (l.filter p).mergeSort le := by
    refine List.filter_eq_self.2 fun a ha => ?_
    exact (List.mem_filter.1 (List.mem_mergeSort.1 ha)).2
  rw [hall] at hsub
  refine hsub.eq_of_length ?_
  rw [List.length_mergeSort, ((List.mergeSort_perm l le).filter p).length_eq]

end Synopsis
