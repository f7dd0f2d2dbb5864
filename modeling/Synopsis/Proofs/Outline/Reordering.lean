import Mathlib.Data.List.Perm.Subperm
import Synopsis.Proofs.Outline.Acceptance

namespace Synopsis

/-!
# Adding and reordering captures

How often a text stands in an outline does not depend on the order of the captures, and no
capture takes away the chunk of another one.

* `multiplicity` — how often captures give a text, told without their order;
* `count_chunks_run`, `count_outlineChunks` — so often the text stands among the chunks;
* `outlineChunks_subperm`, `outlineChunks_perm` — more captures make more chunks, and the same
  captures the same chunks;
* `buildOutline_reordered` — so the order of the captures decides only where a chunk stands, and
  their order across rows decides nothing.
-/

/-! ### Counting a text -/

/-- Each comment that contributes the text is accepted. -/
theorem countP_comment_accepted (source : List Text) (cs : List Capture) (t : Text) :
    ((accepted source cs).filter (·.kind = .comment)).countP (·.text source = t)
      = cs.countP fun c => c.kind = .comment && c.chunk? source = some t := by
  rw [filter_comment_accepted, List.countP_filter]
  apply List.countP_congr
  intro c _
  simp only [Bool.and_eq_true, decide_eq_true_eq, Capture.chunk?_eq_some_iff]
  constructor
  · rintro ⟨rfl, ⟨hk, hin⟩, hne⟩
    exact ⟨hk, hin, rfl, hne⟩
  · rintro ⟨hk, hin, rfl, hne⟩
    exact ⟨rfl, ⟨hk, hin⟩, hne⟩

/-- Of the other captures that contribute the text, one is accepted. -/
theorem countP_structural_accepted (source : List Text) (cs : List Capture) (t : Text) :
    ((accepted source cs).filter fun c => !decide (c.kind = .comment)).countP (·.text source = t)
      = if cs.any fun c => c.kind.isStructural && c.chunk? source = some t then 1 else 0 := by
  rw [← List.isSome_find?, ← Option.length_toList, ← filter_structural_accepted,
    List.countP_filter, ← List.countP_eq_length_filter]
  apply List.countP_congr
  intro c hc
  -- What is accepted is a comment or structural.
  have hk := kind_ne_irrelevant_of_mem_accepted hc
  cases h : c.kind <;> simp_all [Kind.isStructural]

/-- How often the captures give a text: once for each comment that contributes it, and once more
    for all structural captures that do. -/
def multiplicity (source : List Text) (cs : List Capture) (t : Text) : Nat :=
  cs.countP (fun c => c.kind = .comment && c.chunk? source = some t)
    + if cs.any fun c => c.kind.isStructural && c.chunk? source = some t then 1 else 0

/-- More captures give a text no less often. -/
theorem multiplicity_mono {cs ds : List Capture} (h : cs.Subperm ds) (source : List Text)
    (t : Text) : multiplicity source cs t ≤ multiplicity source ds t := by
  rw [multiplicity, multiplicity]
  have hcomments : cs.countP (fun c => c.kind = .comment && c.chunk? source = some t)
      ≤ ds.countP fun c => c.kind = .comment && c.chunk? source = some t := h.countP_le _
  apply Nat.add_le_add hcomments
  split
  · -- The structural capture that contributes the text is not lost.
    rename_i hcs
    obtain ⟨c, hc, ht⟩ := List.any_eq_true.1 hcs
    have hds : ds.any (fun c => c.kind.isStructural && c.chunk? source = some t) = true :=
      List.any_eq_true.2 ⟨c, h.subset hc, ht⟩
    rw [if_pos hds]
  · exact Nat.zero_le _

/-- The order of the captures has no part in it. -/
theorem multiplicity_perm {cs ds : List Capture} (h : cs.Perm ds) (source : List Text)
    (t : Text) : multiplicity source cs t = multiplicity source ds t :=
  Nat.le_antisymm (multiplicity_mono h.subperm source t) (multiplicity_mono h.symm.subperm source t)

/-- A text stands among the chunks of a run as often as the captures give it. -/
theorem count_chunks_run (source : List Text) (cs : List Capture) (t : Text) :
    (Assembler.empty.run source cs).chunks.count t = multiplicity source cs t := by
  have htext : ((accepted source cs).map (·.text source)).count t
      = (accepted source cs).countP (·.text source = t) := by
    rw [List.count_eq_countP, List.countP_map]
    exact List.countP_congr fun c _ => by simp
  -- Comments and structural captures are counted apart.
  rw [chunks_run, htext, List.countP_eq_countP_filter_add _ _ (·.kind = .comment),
    countP_comment_accepted, countP_structural_accepted]
  rfl

/-- The same holds of the chunks of an outline, whatever the order of the captures. -/
theorem count_outlineChunks (source : List Text) (cs : List Capture) (t : Text) :
    (outlineChunks source cs).count t = multiplicity source cs t := by
  rw [outlineChunks, count_chunks_run]
  exact multiplicity_perm (byStartRow_perm cs) source t

/-! ### Adding and reordering -/

/-- **More captures make more chunks.** -/
theorem outlineChunks_subperm {cs ds : List Capture} (h : cs.Subperm ds) (source : List Text) :
    (outlineChunks source cs).Subperm (outlineChunks source ds) := by
  rw [List.subperm_ext_iff]
  intro t _
  rw [count_outlineChunks, count_outlineChunks]
  exact multiplicity_mono h source t

/-- The same captures make the same chunks. -/
theorem outlineChunks_perm {cs ds : List Capture} (h : cs.Perm ds) (source : List Text) :
    (outlineChunks source cs).Perm (outlineChunks source ds) := by
  rw [List.perm_iff_count]
  intro t
  rw [count_outlineChunks, count_outlineChunks]
  exact multiplicity_perm h source t

/-- **Order and number of captures.**  If every capture occurs in the second list at least as
    often as in the first one, so does every chunk in its outline; the same captures in any
    order make the same chunks, each as often; and if the captures of every row keep their
    order, so that only captures on different rows change places, the outline and the records
    are the same. -/
theorem buildOutline_reordered (source : List Text) (cs ds : List Capture) :
    (buildOutline source cs).value = chunkSeparator.intercalate (outlineChunks source cs) ∧
    ((∀ c ∈ cs, cs.count c ≤ ds.count c) →
      (outlineChunks source cs).Subperm (outlineChunks source ds)) ∧
    (cs.Perm ds → (outlineChunks source cs).Perm (outlineChunks source ds)) ∧
    ((∀ row, cs.filter (·.startRow = row) = ds.filter (·.startRow = row)) →
      buildOutline source cs = buildOutline source ds) := by
  refine ⟨buildOutline_value source cs, ?_, ?_, ?_⟩
  · intro h
    exact outlineChunks_subperm (List.subperm_ext_iff.2 h) source
  · intro h
    exact outlineChunks_perm h source
  · -- The captures are pushed in the same order, so the runs are the same.
    intro h
    rw [buildOutline, buildOutline, byStartRow_congr h]

/-- Two equal imports around a comment: one of the imports and the comment, then all three, and
    the same two the other way round. -/
theorem buildOutline_reordered_imports :
    let source := ["import os".toList, "# os".toList, "import os".toList]
    let few : List Capture := [⟨2, 2, .importClause, none⟩, ⟨1, 1, .comment, none⟩]
    let all : List Capture := ⟨0, 0, .importClause, none⟩ :: few
    ((∀ c ∈ few, few.count c ≤ all.count c) ∧
      (outlineChunks source few).Subperm (outlineChunks source all)) ∧
    (few.Perm few.reverse ∧ (outlineChunks source few).Perm (outlineChunks source few.reverse)) ∧
    ((∀ row, few.filter (·.startRow = row) = few.reverse.filter (·.startRow = row)) ∧
      buildOutline source few = buildOutline source few.reverse) := by
  intro source few all
  have hcounts : ∀ c ∈ few, few.count c ≤ all.count c := by decide
  have hperm : few.Perm few.reverse := few.reverse_perm.symm
  have hrows : ∀ row, few.filter (·.startRow = row) = few.reverse.filter (·.startRow = row) := by
    intro row
    by_cases hone : 1 = row
    · subst hone
      rfl
    · by_cases htwo : 2 = row <;> simp [few, hone, htwo]
  exact ⟨⟨hcounts, (buildOutline_reordered source few all).2.1 hcounts⟩,
    ⟨hperm, (buildOutline_reordered source few few.reverse).2.2.1 hperm⟩,
    ⟨hrows, (buildOutline_reordered source few few.reverse).2.2.2 hrows⟩⟩

end Synopsis
