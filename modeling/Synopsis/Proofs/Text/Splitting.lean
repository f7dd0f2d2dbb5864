import Mathlib.Data.List.Chain
import Synopsis.Outline.Assembler
import Synopsis.Proofs.Text.Cutting
import Synopsis.Proofs.Text.Trim

namespace Synopsis

/-!
# Splitting text

Texts that were joined can be read back if the separator stands first where one of them ends.  A
blank line is such a separator for texts that end in no line feed and have no blank line inside.

* `splitText` — the pieces of a text between the occurrences of a separator;
* `splitText_intercalate` — splitting undoes joining;
* `FeedsApart` — no two line feeds stand next to each other;
* `feedsApart_joinRows` — they do not where rows are joined, unless one between two others is empty;
* `standsFirst_chunkSeparator` — a blank line stands first behind such a text.
-/

/-- The pieces of a text between the occurrences of a separator, which is not empty.  The
    separator is looked for from the left, and from behind each occurrence on. -/
def splitText (sep : Text) : Text → List Text
  | [] => [[]]
  | c :: r =>
    if sep.isPrefixOf (c :: r) then [] :: splitText sep (r.drop (sep.length - 1))
    else (splitText sep r).modifyHead (c :: ·)
termination_by s => s.length
decreasing_by all_goals simp only [List.length_drop, List.length_cons]; omega

section

variable {sep chunk : Text}

/-- If the separator stands first behind a text, it does so behind the rest of the text. -/
theorem StandsFirst.tail {c : Char} (h : StandsFirst sep (c :: chunk ++ sep) (c :: chunk)) :
    StandsFirst sep (chunk ++ sep) chunk := by
  refine ⟨List.prefix_rfl, fun other hother => ?_⟩
  have hcons : c :: other ++ sep <+: c :: chunk ++ sep := List.cons_prefix_cons.2 ⟨rfl, hother⟩
  exact Nat.le_of_succ_le_succ (h.first (c :: other) hcons)

/-- Then it does not stand at the beginning, whatever comes behind it. -/
theorem StandsFirst.not_isPrefixOf {c : Char}
    (h : StandsFirst sep (c :: chunk ++ sep) (c :: chunk)) (rest : Text) :
    ¬ sep.isPrefixOf (c :: (chunk ++ (sep ++ rest))) = true := by
  intro hprefix
  have hwhole : c :: chunk ++ sep <+: c :: (chunk ++ (sep ++ rest)) := by
    rw [← List.append_assoc, ← List.cons_append, ← List.cons_append]
    exact List.prefix_append _ rest
  have hsep : sep <+: c :: chunk ++ sep :=
    List.prefix_of_prefix_length_le (List.isPrefixOf_iff_prefix.1 hprefix) hwhole
      (List.suffix_append (c :: chunk) sep).length_le
  exact absurd (h.first [] hsep) (by simp)

/-- **The first piece.**  It ends where the separator stands first. -/
theorem splitText_append (hsep : sep ≠ []) (h : StandsFirst sep (chunk ++ sep) chunk)
    (rest : Text) : splitText sep (chunk ++ (sep ++ rest)) = chunk :: splitText sep rest := by
  induction chunk with
  | nil =>
    -- The separator stands at the beginning, and the pieces go on behind it.
    obtain ⟨c, r, rfl⟩ := List.exists_cons_of_ne_nil hsep
    have hprefix : (c :: r).isPrefixOf (c :: (r ++ rest)) = true :=
      List.isPrefixOf_iff_prefix.2 (List.prefix_append (c :: r) rest)
    show splitText (c :: r) (c :: (r ++ rest)) = _
    rw [splitText, if_pos hprefix, List.length_cons, Nat.add_sub_cancel, List.drop_left]
  | cons c chunk ih =>
    rw [List.cons_append, splitText, if_neg (h.not_isPrefixOf rest), ih h.tail,
      List.modifyHead_cons]

/-- The last piece goes to the end of the text. -/
theorem splitText_of_standsFirst (h : StandsFirst sep (chunk ++ sep) chunk) :
    splitText sep chunk = [chunk] := by
  induction chunk with
  | nil => rw [splitText]
  | cons c chunk ih =>
    have hhead : ¬ sep.isPrefixOf (c :: chunk) = true := by
      intro hprefix
      have hsep := (List.isPrefixOf_iff_prefix.1 hprefix).trans (List.prefix_append _ sep)
      exact absurd (h.first [] hsep) (by simp)
    rw [splitText, if_neg hhead, ih h.tail, List.modifyHead_cons]

/-- **Splitting undoes joining.**  Texts are read back if the separator stands first behind each of
    them. -/
theorem splitText_intercalate {chunks : List Text} (hsep : sep ≠ []) (hne : chunks ≠ [])
    (h : ∀ chunk ∈ chunks, StandsFirst sep (chunk ++ sep) chunk) :
    splitText sep (sep.intercalate chunks) = chunks := by
  induction chunks with
  | nil => exact absurd rfl hne
  | cons chunk rest ih =>
    have hchunk := h chunk List.mem_cons_self
    by_cases hrest : rest = []
    · subst hrest
      rw [List.intercalate_singleton, splitText_of_standsFirst hchunk]
    · rw [List.intercalate_cons_of_ne_nil hrest, List.append_assoc, splitText_append hsep hchunk,
        ih hrest fun t ht => h t (List.mem_cons_of_mem chunk ht)]

-- Of three line feeds, the first two are the separator.
example : splitText chunkSeparator "a\n\n\nb".toList = ["a".toList, "\nb".toList] := by cbv

end

/-! ### Line feeds -/

/-- No two line feeds stand next to each other. -/
def FeedsApart (s : Text) : Prop := s.IsChain fun a b => ¬ (a = '\n' ∧ b = '\n')

theorem FeedsApart.infix {s t : Text} (h : FeedsApart t) (hst : s <:+: t) : FeedsApart s :=
  List.IsChain.infix h hst

theorem feedsApart_of_not_mem {s : Text} (h : '\n' ∉ s) : FeedsApart s := by
  apply List.Pairwise.isChain
  apply List.pairwise_of_forall_mem_list
  rintro a ha b - ⟨rfl, -⟩
  exact h ha

/-- A line feed may be put between two texts if neither has one there. -/
theorem FeedsApart.append_feed {s t : Text} (hs : FeedsApart s) (ht : FeedsApart t)
    (hlast : s.getLast? ≠ some '\n') (hhead : t.head? ≠ some '\n') :
    FeedsApart (s ++ ['\n'] ++ t) := by
  rw [FeedsApart, List.append_assoc]
  refine List.IsChain.append hs ?_ ?_
  · refine List.isChain_cons.2 ⟨?_, ht⟩
    rintro b hb ⟨-, rfl⟩
    exact hhead hb
  · rintro a ha b - ⟨rfl, -⟩
    exact hlast ha

/-- **Line feeds of joined rows.**  Two of them stand next to each other only if a row between two
    others is empty. -/
theorem feedsApart_joinRows {rows : List Text} (hrows : ∀ row ∈ rows, '\n' ∉ row)
    (hinner : ∀ i, 0 < i → i + 1 < rows.length → rows[i]? ≠ some []) :
    FeedsApart (joinRows rows) := by
  induction rows with
  | nil => exact List.isChain_nil
  | cons row rest ih =>
    have hrow : '\n' ∉ row := hrows row List.mem_cons_self
    cases rest with
    | nil =>
      rw [joinRows, List.intercalate_singleton]
      exact feedsApart_of_not_mem hrow
    | cons next rest =>
      have hnext : '\n' ∉ next := hrows next (by simp)
      have hbelow : FeedsApart (joinRows (next :: rest)) := by
        refine ih (fun r hr => hrows r (List.mem_cons_of_mem row hr)) fun i hi hlt => ?_
        exact hinner (i + 1) (Nat.succ_pos i) (Nat.succ_lt_succ hlt)
      rw [joinRows_cons (List.cons_ne_nil next rest)]
      refine (feedsApart_of_not_mem hrow).append_feed hbelow ?_ ?_
      · intro hlast
        exact hrow (List.mem_of_getLast? hlast)
      · -- The text below begins with the next row, which is empty only if it is the last one.
        intro hhead
        cases rest with
        | nil =>
          rw [joinRows, List.intercalate_singleton] at hhead
          exact hnext (List.mem_of_head? hhead)
        | cons last rest =>
          have hne : next ≠ [] := by
            rintro rfl
            exact hinner 1 Nat.one_pos (by simp) rfl
          obtain ⟨c, r, rfl⟩ := List.exists_cons_of_ne_nil hne
          rw [joinRows_cons (List.cons_ne_nil last rest)] at hhead
          obtain rfl : c = '\n' := by simpa using hhead
          exact hnext List.mem_cons_self

/-- **A blank line behind a chunk.**  It does not stand further in front if the chunk is trimmed and
    no two line feeds stand next to each other in it. -/
theorem standsFirst_chunkSeparator {chunk : Text} (hchunk : FeedsApart chunk)
    (htrimmed : IsTrimmed chunk) :
    StandsFirst chunkSeparator (chunk ++ chunkSeparator) chunk := by
  have hlast : chunk.getLast? ≠ some '\n' := by
    intro hlast
    exact absurd (htrimmed.last '\n' hlast) (by decide)
  have hfeed : FeedsApart (chunk ++ ['\n'] ++ []) :=
    hchunk.append_feed List.isChain_nil hlast (by simp)
  refine ⟨List.prefix_rfl, fun other hother => ?_⟩
  by_contra hshort
  -- The blank line would stand in the chunk and the first line feed behind it.
  have hprefix : chunk ++ ['\n'] <+: chunk ++ chunkSeparator := ⟨['\n'], by simp [chunkSeparator]⟩
  have hinside : other ++ chunkSeparator <+: chunk ++ ['\n'] := by
    refine List.prefix_of_prefix_length_le hother hprefix ?_
    simp only [List.length_append, chunkSeparator, List.length_cons, List.length_nil]
    omega
  have hblank : FeedsApart chunkSeparator := by
    rw [List.append_nil] at hfeed
    exact hfeed.infix ((List.suffix_append other chunkSeparator).isInfix.trans hinside.isInfix)
  simp [FeedsApart, chunkSeparator] at hblank

end Synopsis
