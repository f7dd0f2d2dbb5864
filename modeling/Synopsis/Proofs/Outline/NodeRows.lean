import Mathlib.Data.List.DropRight
import Synopsis.Proofs.Listing.LineCount
import Synopsis.Proofs.Outline.Accounting

namespace Synopsis

/-!
# The rows of a node

A node covers some bytes of a content and tells by rows and columns where they start and stop.  Its
capture names the rows of the first and of the last of these bytes, and both are lines of the
content, although a content that ends in a line feed has one row more than it has lines.

* `rowAt`, `placeAt` — the row of a byte, and its place;
* `placeAt_succ` — what one more byte does to a place;
* `rowAt_lt_length_lines` — the row of a byte is a line;
* `TaggedNode.Covers` — the bytes that a node covers;
* `TaggedNode.Covers.lastRow_eq` — the last row of a node is the row of its last byte;
* `judge_eq_skipped_iff_of_isIn` — the captures that lie in a source and are skipped;
* `captures_of_covering_nodes` — the captures of nodes lie in the content.
-/

/-! ### Places of bytes -/

/-- The row of a byte: the number of line feeds before it.  So a line feed belongs to the row that
    it ends. -/
def rowAt (content : Bytes) (i : Nat) : Nat := (content.take i).count lineFeed

/-- The place of a byte: its row, and the number of bytes between the row's start and the byte. -/
def placeAt (content : Bytes) (i : Nat) : Position where
  row := rowAt content i
  column := ((content.take i).rtakeWhile (· ≠ lineFeed)).length

/-- Behind a line feed a row starts; any other byte is one more column. -/
theorem placeAt_succ {content : Bytes} {i : Nat} {b : UInt8} (h : content[i]? = some b) :
    placeAt content (i + 1) =
      if b = lineFeed then ⟨rowAt content i + 1, 0⟩
      else ⟨rowAt content i, (placeAt content i).column + 1⟩ := by
  have htake : content.take (i + 1) = content.take i ++ [b] := by
    rw [List.take_add_one, h, Option.toList_some]
  rw [placeAt, rowAt, htake, List.count_append, List.rtakeWhile_concat]
  by_cases hb : b = lineFeed
  · simp [hb, rowAt]
  · simp [hb, rowAt, placeAt]

theorem rowAt_mono (content : Bytes) {i j : Nat} (h : i ≤ j) : rowAt content i ≤ rowAt content j :=
  (List.take_sublist_take_left h).count_le lineFeed

/-- The row of the last byte: all line feeds stand before it, unless it is one itself. -/
theorem rowAt_getLast {content : Bytes} {b : UInt8} (h : content.getLast? = some b) :
    rowAt content (content.length - 1) + (if b = lineFeed then 1 else 0)
      = content.count lineFeed := by
  obtain ⟨front, rfl⟩ := List.getLast?_eq_some_iff.1 h
  rw [rowAt, List.length_append, List.length_singleton, Nat.add_sub_cancel, List.take_left,
    List.count_append, List.count_singleton]
  simp only [beq_iff_eq]

/-- **The row of a byte is a line.**  The empty row behind a final line feed has no bytes. -/
theorem rowAt_lt_length_lines {s : Text} {i : Nat} (h : i < (encode s).length) :
    rowAt (encode s) i < (lines s).length := by
  have hlines : (lines s).length = countLines [encode s] := by
    rw [countLines_eq_length_lines, List.flatten_singleton, decodeLossy_encode]
  have htally : countLines [encode s]
      = if (encode s).getLast?.all (· = lineFeed) then (encode s).count lineFeed
        else (encode s).count lineFeed + 1 := by
    rw [countLines, foldl_feed, List.flatten_singleton, LineTally.empty, Nat.zero_add,
      Option.or_none, LineTally.total]
  obtain ⟨b, hb⟩ : ∃ b, (encode s).getLast? = some b :=
    Option.isSome_iff_exists.1 (List.getLast?_isSome.2 (List.ne_nil_of_length_pos (by omega)))
  have hmono : rowAt (encode s) i ≤ rowAt (encode s) ((encode s).length - 1) :=
    rowAt_mono _ (by omega)
  have hlast := rowAt_getLast hb
  rw [hlines, htally, hb, Option.all_some]
  by_cases hfeed : b = lineFeed
  · simp only [hfeed, decide_true, if_true] at hlast ⊢
    omega
  · simp only [hfeed, decide_false, if_false, Bool.false_eq_true] at hlast ⊢
    omega

/-! ### Nodes -/

/-- The node covers the bytes of the content from `first` on and before `stop`, at least one, and
    names the places of these two. -/
structure TaggedNode.Covers (n : TaggedNode) (content : Bytes) (first stop : Nat) : Prop where
  /-- There is a first byte. -/
  nonempty : first < stop
  /-- The last byte belongs to the content. -/
  within : stop ≤ content.length
  /-- The node starts at the first byte. -/
  start_eq : n.start = placeAt content first
  /-- The node stops behind the last byte. -/
  stop_eq : n.stop = placeAt content stop

/-- **The last row of a node** is the row of its last byte. -/
theorem TaggedNode.Covers.lastRow_eq {n : TaggedNode} {content : Bytes} {first stop : Nat}
    (h : n.Covers content first stop) : n.lastRow = rowAt content (stop - 1) := by
  have hpos := h.nonempty
  have hlt : stop - 1 < content.length := Nat.lt_of_lt_of_le (by omega) h.within
  have hstop : n.stop = placeAt content (stop - 1 + 1) := by
    rw [h.stop_eq, Nat.sub_add_cancel (by omega)]
  have hstart : n.start.row ≤ rowAt content (stop - 1) := by
    rw [h.start_eq]
    exact rowAt_mono content (by omega)
  rw [placeAt_succ (List.getElem?_eq_getElem hlt)] at hstop
  rw [TaggedNode.lastRow, hstop]
  by_cases hfeed : content[stop - 1] = lineFeed
  · -- The node stops at the start of the row behind its last byte.
    rw [if_pos hfeed, if_pos ⟨rfl, Nat.lt_succ_of_le hstart⟩]
    rfl
  · rw [if_neg hfeed, if_neg fun hcolumn => Nat.succ_ne_zero _ hcolumn.1]

/-- The rows of a node are lines of the content, in order. -/
theorem TaggedNode.Covers.capture_rows {n : TaggedNode} {s : Text} {first stop : Nat}
    (h : n.Covers (encode s) first stop) :
    n.capture.startRow = rowAt (encode s) first ∧
    n.capture.endRow = rowAt (encode s) (stop - 1) ∧
    n.capture.startRow ≤ n.capture.endRow ∧ n.capture.endRow < (lines s).length := by
  have hstart : n.capture.startRow = rowAt (encode s) first := congrArg Position.row h.start_eq
  have hend : n.capture.endRow = rowAt (encode s) (stop - 1) := h.lastRow_eq
  have hpos := h.nonempty
  have hwithin := h.within
  refine ⟨hstart, hend, ?_, ?_⟩
  · rw [hstart, hend]
    exact rowAt_mono _ (by omega)
  · rw [hend]
    exact rowAt_lt_length_lines (by omega)

/-! ### Captures -/

/-- A relevant capture that lies in the source is skipped only if it has no text. -/
theorem judge_eq_skipped_iff_of_isIn {a : Assembler} {source : List Text} {c : Capture}
    (hin : c.isIn source = true) (hkind : c.kind ≠ .irrelevant) :
    a.judge source c = .skipped ↔ c.text source = [] := by
  obtain ⟨hstart, hend⟩ := Capture.isIn_iff.1 hin
  rw [judge_eq_skipped_iff, Capture.IsSilent, or_iff_right (Nat.not_le.2 hstart),
    or_iff_right (Nat.not_lt.2 hend), or_iff_right hkind]

/-- The captures of nodes are those of the nodes whose tags name a kind. -/
theorem captures_eq_map_filter (nodes : List TaggedNode) :
    captures nodes
      = (nodes.filter fun n => Kind.ofTag n.tag ≠ .irrelevant).map TaggedNode.capture := by
  rw [captures, List.filter_map]
  rfl

/-- **The captures of nodes lie in the content.**  Each of the nodes covers some bytes of the
    content.  Then its capture starts on the row of the first byte and ends on the row of the last
    one, and these are lines of the content, in this order.  The captures are those of the nodes
    whose tags name a kind, in the order of the nodes.  Each of them lies in the lines of the
    content, its last row is not moved, and it is skipped only if it has no text, whatever was
    pushed before. -/
theorem captures_of_covering_nodes {s : Text} {nodes : List TaggedNode}
    (h : ∀ n ∈ nodes, ∃ first stop, n.Covers (encode s) first stop) :
    (∀ n ∈ nodes, ∀ first stop, n.Covers (encode s) first stop →
      n.capture.startRow = rowAt (encode s) first ∧
      n.capture.endRow = rowAt (encode s) (stop - 1) ∧
      n.capture.startRow ≤ n.capture.endRow ∧ n.capture.endRow < (lines s).length) ∧
    captures nodes
      = (nodes.filter fun n => Kind.ofTag n.tag ≠ .irrelevant).map TaggedNode.capture ∧
    ∀ c ∈ captures nodes, c.isIn (lines s) = true ∧
      lastRow (lines s) c.startRow c.endRow = c.endRow ∧
      ∀ a : Assembler, a.judge (lines s) c = .skipped ↔ c.text (lines s) = [] := by
  refine ⟨fun n _ first stop hn => hn.capture_rows, captures_eq_map_filter nodes, ?_⟩
  intro c hc
  rw [captures_eq_map_filter, List.mem_map] at hc
  obtain ⟨n, hn, rfl⟩ := hc
  obtain ⟨hmem, hkind⟩ := List.mem_filter.1 hn
  obtain ⟨first, stop, hcovers⟩ := h n hmem
  obtain ⟨-, -, hle, hlt⟩ := hcovers.capture_rows
  have hin : n.capture.isIn (lines s) = true :=
    Capture.isIn_iff.2 ⟨Nat.lt_of_le_of_lt hle hlt, hle⟩
  have hlast : lastRow (lines s) n.capture.startRow n.capture.endRow = n.capture.endRow := by
    rw [lastRow]
    omega
  exact ⟨hin, hlast, fun a => judge_eq_skipped_iff_of_isIn hin (of_decide_eq_true hkind)⟩

/-- A comment with its line ending, an empty row, and a definition that ends where the text does:
    the row behind the final line feed is not reached.  A name inside the definition is left out. -/
theorem captures_of_covering_nodes_script :
    let s := "# ä\r\n\ndef f():\n  pass\n".toList
    let comment : TaggedNode := ⟨"comment".toList, ⟨0, 0⟩, ⟨1, 0⟩, none⟩
    let row : TaggedNode := ⟨"definition.import".toList, ⟨1, 0⟩, ⟨2, 0⟩, none⟩
    let name : TaggedNode := ⟨"name".toList, ⟨2, 4⟩, ⟨2, 5⟩, none⟩
    let definition : TaggedNode := ⟨"definition.function".toList, ⟨2, 0⟩, ⟨4, 0⟩, some ⟨3, 2⟩⟩
    let nodes := [comment, row, name, definition]
    (∀ n ∈ nodes, ∃ first stop, n.Covers (encode s) first stop) ∧
    (definition ∈ nodes ∧ definition.Covers (encode s) 7 23 ∧
      definition.capture.endRow = rowAt (encode s) 22 ∧
      definition.capture.endRow < (lines s).length) ∧
    captures nodes = [comment, row, definition].map TaggedNode.capture ∧
    (comment.capture ∈ captures nodes ∧ comment.capture.isIn (lines s) = true ∧
      lastRow (lines s) 0 0 = 0) := by
  intro s comment row name definition nodes
  have hcomment : comment.Covers (encode s) 0 6 :=
    ⟨by decide, by decide +kernel, by decide +kernel, by decide +kernel⟩
  have hrow : row.Covers (encode s) 6 7 :=
    ⟨by decide, by decide +kernel, by decide +kernel, by decide +kernel⟩
  have hname : name.Covers (encode s) 11 12 :=
    ⟨by decide, by decide +kernel, by decide +kernel, by decide +kernel⟩
  have hdefinition : definition.Covers (encode s) 7 23 :=
    ⟨by decide, by decide +kernel, by decide +kernel, by decide +kernel⟩
  have hcovers : ∀ n ∈ nodes, ∃ first stop, n.Covers (encode s) first stop := by
    simp only [nodes, List.forall_mem_cons, List.not_mem_nil, false_imp_iff, implies_true, and_true]
    exact ⟨⟨0, 6, hcomment⟩, ⟨6, 7, hrow⟩, ⟨11, 12, hname⟩, ⟨7, 23, hdefinition⟩⟩
  have hmem : definition ∈ nodes := by decide
  have hrelevant : nodes.filter (fun n => Kind.ofTag n.tag ≠ .irrelevant)
      = [comment, row, definition] := by decide +kernel
  obtain ⟨hrows, hcaptures, hin⟩ := captures_of_covering_nodes hcovers
  obtain ⟨-, hend, -, hlt⟩ := hrows definition hmem 7 23 hdefinition
  rw [hrelevant] at hcaptures
  have hfirst : comment.capture ∈ captures nodes := hcaptures ▸ List.mem_cons_self
  obtain ⟨hcommentIn, hlast, -⟩ := hin _ hfirst
  exact ⟨hcovers, ⟨hmem, hdefinition, hend, hlt⟩, hcaptures, ⟨hfirst, hcommentIn, hlast⟩⟩

end Synopsis
