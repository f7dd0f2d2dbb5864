import Mathlib.Data.List.Induction
import Synopsis.Listing.LineTally
import Synopsis.Text.Lines
import Synopsis.Proofs.Text.Decoding

namespace Synopsis

/-!
# How many lines there are

Lines are counted in the bytes of a file as they arrive, and in its text once it is decoded.

* `length_lines` — the number of lines of a text, by its pieces between line feeds;
* `foldl_feed` — what is known of content after some blocks;
* `countLines_eq_length_lines` — both ways of counting agree.
-/

/-! ### Pieces -/

section Pieces

variable {α : Type} [DecidableEq α]

/-- A list is cut into one piece more than it has separators. -/
theorem length_splitOn (a : α) (s : List α) : (s.splitOn a).length = s.count a + 1 := by
  by_cases h : a ∈ s
  · obtain ⟨before, after, rfl⟩ := List.append_of_mem h
    rw [List.splitOn_append_cons_self, List.length_append, length_splitOn a before,
      length_splitOn a after, List.count_append, List.count_cons_self]
    omega
  · rw [List.splitOn_eq_singleton h, List.count_eq_zero_of_not_mem h]
    rfl
termination_by s.length

/-- The last piece is empty exactly if nothing comes after the last separator. -/
theorem getLast?_splitOn_eq_nil_iff {a : α} {s : List α} :
    (s.splitOn a).getLast? = some [] ↔ s.getLast?.all (· = a) = true := by
  by_cases h : a ∈ s
  · obtain ⟨before, after, rfl⟩ := List.append_of_mem h
    have hpieces : ((before ++ a :: after).splitOn a).getLast? = (after.splitOn a).getLast? := by
      rw [List.splitOn_append_cons_self, List.getLast?_append,
        Option.or_of_isSome (List.getLast?_isSome.2 (List.splitOn_ne_nil a after))]
    have hlast : (before ++ a :: after).getLast?.all (· = a) = after.getLast?.all (· = a) := by
      rw [List.getLast?_append, List.getLast?_cons]
      cases after.getLast? <;> simp
    rw [hpieces, hlast, getLast?_splitOn_eq_nil_iff]
  · rw [List.splitOn_eq_singleton h]
    cases s using List.reverseRecOn with
    | nil => simp
    | append_singleton s c =>
      have hne : c ≠ a := fun hc => h (by simp [hc])
      simp [hne]
termination_by s.length

end Pieces

/-! ### Lines of a text -/

/-- A text has a line for each line feed, and one more if something comes after the last one. -/
theorem length_lines (s : Text) :
    (lines s).length = (s.splitOn '\n').length - 1
      + if (s.splitOn '\n').getLast? = some [] then 0 else 1 := by
  have hopen : (openLine (s.splitOn '\n')).length
      = if (s.splitOn '\n').getLast? = some [] then 0 else 1 := by
    rw [openLine]
    cases h : (s.splitOn '\n').getLast? with
    | none => exact absurd (List.getLast?_eq_none_iff.1 h) (List.splitOn_ne_nil _ _)
    | some piece => cases piece <;> simp
  rw [lines, List.length_append, List.length_map, List.length_dropLast, hopen]

/-! ### Lines of content -/

/-- What is counted after some blocks depends on the content alone, not on how it was cut. -/
theorem foldl_feed (blocks : List Bytes) (t : LineTally) :
    blocks.foldl LineTally.feed t
      = ⟨t.feeds + blocks.flatten.count lineFeed, blocks.flatten.getLast?.or t.last⟩ := by
  induction blocks generalizing t with
  | nil => simp
  | cons block rest ih =>
    rw [List.foldl_cons, ih, LineTally.feed, List.flatten_cons, List.count_append,
      List.getLast?_append, Nat.add_assoc, Option.or_assoc]

/-- **Counting by blocks.**  The lines of content that arrives in blocks are the lines of its
    text, wherever the blocks end. -/
theorem countLines_eq_length_lines (blocks : List Bytes) :
    countLines blocks = (lines (decodeLossy blocks.flatten)).length := by
  have hpieces : (decodeLossy blocks.flatten).splitOn '\n'
      = (blocks.flatten.splitOn lineFeed).map decodeLossy :=
    splitOn_decodeLossy (b := lineFeed) (by decide) (by decide) blocks.flatten
  have hlast : ((blocks.flatten.splitOn lineFeed).map decodeLossy).getLast? = some [] ↔
      blocks.flatten.getLast?.all (· = lineFeed) = true := by
    rw [← getLast?_splitOn_eq_nil_iff, List.getLast?_map, Option.map_eq_some_iff]
    simp only [decodeLossy_eq_nil_iff, exists_eq_right]
  have htally : blocks.foldl LineTally.feed .empty
      = ⟨blocks.flatten.count lineFeed, blocks.flatten.getLast?⟩ := by
    rw [foldl_feed, LineTally.empty, Nat.zero_add, Option.or_none]
  rw [length_lines, hpieces, List.length_map, length_splitOn, Nat.add_sub_cancel, countLines,
    htally, LineTally.total, if_congr hlast rfl rfl]
  split <;> rfl

end Synopsis
