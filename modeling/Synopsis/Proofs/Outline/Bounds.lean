import Synopsis.Proofs.Outline.Checked

namespace Synopsis

/-!
# Bounds

The only guard of the computation of an outline is that a capture starts in the source and does
not end before it starts.  From it every other bound follows: the checked computation never stops,
and returns what the unchecked one returns.

* `bytePrefix?_of_byteIndex?` — a row is cut where a character starts;
* `closingNumber?_eq` — the row that closes a header, by its number;
* `Capture.checkedText_of_lt`, `Capture.exists_checkedText_iff` — the text of a capture can be
  computed exactly if its first row exists;
* `Assembler.checkedPush_eq`, `Assembler.checkedRun_eq` — one push and several;
* `checked_within_bounds` — no check fails.
-/

/-! ### Cuts -/

/-- **A row is cut where a character starts.**  The bytes before the first occurrence of a marker
    are whole characters, those of the text before it. -/
theorem bytePrefix?_of_byteIndex? {marker row : Text} {offset : Nat}
    (h : byteIndex? marker row = some offset) :
    bytePrefix? row offset = some (upTo marker row) := by
  induction row generalizing offset with
  | nil =>
    rw [byteIndex?] at h
    split at h
    · obtain rfl := Option.some.inj h
      rfl
    · cases h
  | cons c r ih =>
    rw [byteIndex?] at h
    rw [upTo]
    split at h
    · rename_i hmarker
      obtain rfl := Option.some.inj h
      rw [if_pos hmarker]
      rfl
    · rename_i hmarker
      -- The first character is not cut: the marker starts that many bytes later.
      obtain ⟨rest, hrest, rfl⟩ := Option.map_eq_some_iff.1 h
      have hpos : c.utf8Size + rest ≠ 0 := by
        have := c.utf8Size_pos
        omega
      rw [if_neg hmarker, bytePrefix?, if_neg hpos, if_pos (Nat.le_add_right _ _),
        Nat.add_sub_cancel_left, ih hrest]
      rfl

theorem upTo_of_byteIndex?_eq_none {marker row : Text} (h : byteIndex? marker row = none) :
    upTo marker row = row := by
  induction row with
  | nil => rfl
  | cons c r ih =>
    rw [byteIndex?] at h
    rw [upTo]
    split at h
    · cases h
    · rename_i hmarker
      rw [if_neg hmarker, ih (Option.map_eq_none_iff.1 h)]

@[simp] theorem checkedUpTo_eq (marker row : Text) :
    checkedUpTo marker row = pure (upTo marker row) := by
  rw [checkedUpTo]
  cases h : byteIndex? marker row with
  | none => rw [upTo_of_byteIndex?_eq_none h]
  | some offset => simp only [checkedCut, bytePrefix?_of_byteIndex? h]

@[simp] theorem checkedCutLast_concat (marker row : Text) (rows : List Text) :
    checkedCutLast marker (rows ++ [row]) = pure (rows ++ [trimEnd (upTo marker row)]) := by
  simp [checkedCutLast]

/-! ### Rows -/

theorem checkedRow_of_lt {source : List Text} {i : Nat} (h : i < source.length) :
    checkedRow source i = pure source[i] := by
  rw [checkedRow, List.getElem?_eq_getElem h]

theorem checkedRows_of_lt {source : List Text} {first last : Nat} (h : first ≤ last)
    (hlast : last < source.length) :
    checkedRows source first last = pure (rowsIn source first last) :=
  if_pos ⟨h, hlast⟩

theorem checkedRows_of_length_le {source : List Text} {first last : Nat}
    (h : source.length ≤ last) : checkedRows source first last = throw (.rows first last) :=
  if_neg fun hin => Nat.not_lt.2 h hin.2

/-! ### Headers -/

theorem closingRow?_eq_append {rows before : List Text} {row : Text} {t : Terminator}
    (h : closingRow? rows = some (before, row, t)) : ∃ after, rows = before ++ row :: after := by
  induction rows generalizing before with
  | nil => cases h
  | cons first rest ih =>
    rw [closingRow?] at h
    cases hfirst : terminator? first with
    | some u =>
      rw [hfirst] at h
      cases h
      exact ⟨rest, rfl⟩
    | none =>
      rw [hfirst] at h
      obtain ⟨⟨before', row', u⟩, hrest, heq⟩ := Option.map_eq_some_iff.1 h
      cases heq
      obtain ⟨after, rfl⟩ := ih hrest
      exact ⟨after, rfl⟩

theorem findSome?_zipIdx_terminator? (rows : List Text) (n : Nat) :
    (rows.zipIdx n).findSome? (fun (row, i) => (terminator? row).map (i, ·))
      = (closingRow? rows).map fun (before, _, t) => (n + before.length, t) := by
  induction rows generalizing n with
  | nil => rfl
  | cons row rest ih =>
    simp only [List.zipIdx_cons, List.findSome?_cons, closingRow?]
    cases terminator? row with
    | some t => rfl
    | none =>
      simp only [Option.map_none, ih, Option.map_map]
      congr 1
      funext ⟨before, _, t⟩
      simp only [Function.comp_apply, List.length_cons]
      rw [Nat.add_right_comm, Nat.add_assoc]

theorem drop_take_zipIdx (source : List Text) (first last : Nat) :
    (source.zipIdx.take (last + 1)).drop first = (rowsIn source first last).zipIdx first := by
  apply List.ext_getElem?
  intro i
  rw [List.getElem?_drop, List.getElem?_take, List.getElem?_zipIdx, List.getElem?_zipIdx,
    getElem?_rowsIn]
  by_cases h : first + i ≤ last
  · rw [if_pos (by omega), if_pos h, Nat.zero_add]
  · rw [if_neg (by omega), if_neg h]
    rfl

/-- **The row that closes a header.**  Counting the rows of the source finds the row that is found
    among the rows of the header. -/
theorem closingNumber?_eq (source : List Text) (first last : Nat) :
    closingNumber? source first (last + 1) = (closingRow? (rowsIn source first last)).map
      fun (before, _, t) => (first + before.length, t) := by
  rw [closingNumber?, drop_take_zipIdx, findSome?_zipIdx_terminator?]

/-- The rows up to the one that closes a header. -/
theorem rowsIn_of_closingRow? {source before : List Text} {first last : Nat} {row : Text}
    {t : Terminator} (h : closingRow? (rowsIn source first last) = some (before, row, t)) :
    first + before.length < source.length ∧
      rowsIn source first (first + before.length) = before ++ [row] := by
  obtain ⟨after, hrows⟩ := closingRow?_eq_append h
  have hlen : (rowsIn source first last).length = before.length + (after.length + 1) := by
    rw [hrows, List.length_append, List.length_cons]
  rw [rowsIn, List.length_take, List.length_drop] at hlen
  refine ⟨by omega, ?_⟩
  -- The rows up to the closing one are the first of those that were searched.
  have htake : rowsIn source first (first + before.length)
      = (rowsIn source first last).take (before.length + 1) := by
    rw [rowsIn, rowsIn, List.take_take]
    congr 1
    omega
  rw [htake, hrows, List.take_append, List.take_of_length_le (Nat.le_succ _)]
  simp

/-- A body moved into the span stays in it. -/
theorem checkedLimit_eq (source : List Text) (startRow endRow : Nat) (body : Option Position) :
    checkedLimit source startRow endRow body = pure (headerLimit source startRow endRow body) := by
  cases body with
  | none => rfl
  | some b => exact if_pos (le_lastRow source startRow endRow)

theorem checkedHeaderRows_eq {source : List Text} {startRow limit : Nat}
    (hsource : source.length < wordLimit) (hstart : startRow ≤ limit)
    (hlimit : limit < source.length) (body : Option Position) :
    checkedHeaderRows source startRow limit body
      = pure (headerRows (rowsIn source startRow limit)
          ((body.filter (·.row = limit)).map (·.column))) := by
  have hstop : checkedAdd limit 1 = pure (limit + 1) := if_pos (by omega)
  rw [checkedHeaderRows, hstop, pure_bind, closingNumber?_eq, headerRows.eq_def]
  cases hclosing : closingRow? (rowsIn source startRow limit) with
  | some closing =>
    -- The row that closes the header was found in the source, so the rows up to it exist.
    obtain ⟨before, row, t⟩ := closing
    obtain ⟨hlt, hrows⟩ := rowsIn_of_closingRow? hclosing
    simp only [Option.map_some, checkedRows_of_lt (Nat.le_add_right _ _) hlt, pure_bind, hrows,
      checkedCutLast_concat]
    split <;> rfl
  | none =>
    simp only [Option.map_none, checkedRows_of_lt hstart hlimit, pure_bind]
    cases body.filter (·.row = limit) <;> rfl

/-! ### Texts of captures -/

section

variable {source : List Text} {startRow : Nat}

theorem checkedVerbatim_eq (h : startRow < source.length) (endRow : Nat) :
    checkedVerbatim source startRow endRow = pure (verbatim source startRow endRow) := by
  rw [checkedVerbatim, checkedRows_of_lt (le_lastRow source startRow endRow) (lastRow_lt h endRow),
    pure_bind, verbatim]

theorem checkedClassHeader_eq (hsource : source.length < wordLimit) (h : startRow < source.length)
    (endRow : Nat) :
    checkedClassHeader source startRow endRow = pure (classHeader source startRow endRow) := by
  have hnext : checkedAdd startRow 1 = pure (startRow + 1) := if_pos (by omega)
  have hfirst : rowsIn source startRow startRow = [source[startRow]] := by
    rw [rowsIn_self, List.getElem?_eq_getElem h, Option.toList_some]
  have hparts : ∀ rows : List Text, (rows.mapM fun row => do
      let head ← checkedUpTo ['\x7b'] row
      pure (trim head)) = (pure (rows.map beforeBrace) : Checked (List Text)) := by
    intro rows
    simp only [checkedUpTo_eq, pure_bind]
    exact List.mapM_pure
  rw [checkedClassHeader, checkedRow_of_lt h, pure_bind, hnext, classHeader, classRows, hfirst,
    rowsIn_self]
  by_cases hend : startRow < endRow
  · simp only [if_pos hend, pure_bind, hparts, Option.toList_filter, List.singleton_append]
  · simp only [if_neg hend, pure_bind, hparts, Option.toList_none, List.append_nil]

theorem checkedSignature_eq (hsource : source.length < wordLimit) (h : startRow < source.length)
    (endRow : Nat) (body : Option Position) :
    checkedSignature source startRow endRow body
      = pure (signature source startRow endRow body) := by
  rw [checkedSignature, checkedLimit_eq, pure_bind,
    checkedHeaderRows_eq hsource (le_headerLimit source startRow endRow body)
      (headerLimit_lt h endRow body), pure_bind, signature]

end

variable {source : List Text}

/-- The text of a capture can be computed if its first row exists, wherever the capture ends and
    wherever its body starts. -/
theorem Capture.checkedText_of_lt {c : Capture} (hsource : source.length < wordLimit)
    (h : c.startRow < source.length) : c.checkedText source = pure (c.text source) := by
  rw [checkedText, text]
  cases c.kind with
  | comment | typeDefinition | importClause | property => exact checkedVerbatim_eq h c.endRow
  | classDefinition => exact checkedClassHeader_eq hsource h c.endRow
  | signature => exact checkedSignature_eq hsource h c.endRow c.body
  | irrelevant => rfl

/-- Without its first row, the header of a capture cannot be computed. -/
theorem checkedSignature_of_length_le {startRow : Nat} (h : source.length ≤ startRow)
    (endRow : Nat) (body : Option Position) :
    ∃ b, checkedSignature source startRow endRow body = throw b := by
  have hlimit := Nat.le_trans h (le_headerLimit source startRow endRow body)
  have hnone : closingNumber? source startRow (headerLimit source startRow endRow body + 1)
      = none := by
    rw [closingNumber?_eq, rowsIn, List.drop_eq_nil_of_le h, List.take_nil]
    rfl
  rw [checkedSignature, checkedLimit_eq, pure_bind, checkedHeaderRows, checkedAdd]
  -- Already the number of the row after the limit may be too great.
  split
  · rw [pure_bind, hnone, checkedRows_of_length_le hlimit]
    exact ⟨_, rfl⟩
  · exact ⟨_, rfl⟩

/-- **What the guard is for.**  The text of a capture that contributes can be computed exactly if
    its first row exists. -/
theorem Capture.exists_checkedText_iff {c : Capture} (hsource : source.length < wordLimit)
    (hkind : c.kind ≠ .irrelevant) :
    (∃ t, c.checkedText source = pure t) ↔ c.startRow < source.length := by
  refine ⟨fun ⟨t, ht⟩ => ?_, fun h => ⟨_, checkedText_of_lt hsource h⟩⟩
  refine Nat.lt_of_not_le fun hle => ?_
  have hbreach : ∃ b, c.checkedText source = throw b := by
    rw [checkedText]
    cases hk : c.kind with
    | comment | typeDefinition | importClause | property =>
      rw [checkedVerbatim,
        checkedRows_of_length_le (Nat.le_trans hle (le_lastRow source c.startRow c.endRow))]
      exact ⟨_, rfl⟩
    | classDefinition =>
      rw [checkedClassHeader, checkedRow, List.getElem?_eq_none hle]
      exact ⟨_, rfl⟩
    | signature => exact checkedSignature_of_length_le hle c.endRow c.body
    | irrelevant => exact absurd hk hkind
  obtain ⟨b, hb⟩ := hbreach
  rw [hb] at ht
  cases ht

/-- An empty source has no row to read. -/
example : (Capture.mk 0 0 .comment none).checkedText [] = .error (.rows 0 0) := rfl

/-! ### Pushes -/

theorem Capture.checkedChunk_eq (hsource : source.length < wordLimit) (c : Capture) :
    c.checkedChunk source = pure (c.chunk? source) := by
  rw [checkedChunk, chunk?]
  split
  · rename_i hin
    rw [checkedText_of_lt hsource (isIn_iff.1 hin).1, pure_bind]
  · rfl

theorem Assembler.verdict_chunk? (a : Assembler) (source : List Text) (c : Capture) :
    a.verdict c (c.chunk? source) = a.judge source c := by
  rw [judge]
  cases c.chunk? source <;> rfl

/-- A push succeeds, whatever was pushed before. -/
theorem Assembler.checkedPush_eq (hsource : source.length < wordLimit) (a : Assembler)
    (c : Capture) :
    a.checkedPush source c = pure ⟨c, a.judge source c, a.push source c⟩ := by
  rw [checkedPush, c.checkedChunk_eq hsource, pure_bind, a.verdict_chunk? source c, push]

/-- Pushes succeed one after another. -/
theorem Assembler.checkedRun_eq (hsource : source.length < wordLimit) (a : Assembler)
    (cs : List Capture) :
    a.checkedRun source cs = pure (a.run source cs, a.trace source cs) := by
  induction cs generalizing a with
  | nil => rfl
  | cons c rest ih =>
    rw [checkedRun, a.checkedPush_eq hsource c, pure_bind, ih (a.push source c), pure_bind]
    rfl

theorem checkedOutline_eq (hsource : source.length < wordLimit) (cs : List Capture) :
    checkedOutline source cs = pure (buildOutline source cs) := by
  rw [checkedOutline, Assembler.checkedRun_eq hsource, pure_bind]
  rfl

/-! ### Captures of nodes -/

theorem TaggedNode.checkedCapture_eq (n : TaggedNode) : n.checkedCapture = pure n.capture := by
  rw [checkedCapture, capture, lastRow]
  split
  · rename_i h
    have hsub : checkedSub n.stop.row 1 = pure (n.stop.row - 1) := if_pos (by omega)
    rw [hsub, pure_bind]
  · rw [pure_bind]

theorem checkedCaptures_eq (nodes : List TaggedNode) :
    checkedCaptures nodes = pure (captures nodes) := by
  rw [checkedCaptures, captures, List.filter_map, funext TaggedNode.checkedCapture_eq,
    List.mapM_pure]
  rfl

/-- **No access is out of bounds.**  For every source, whose length is a machine word, and for all
    captures, whatever their rows and bodies, no check fails: neither in pushes in any order, from
    wherever they start, nor in the computation of an outline, nor on the way from nodes to their
    captures.  What is computed is what is computed without checks. -/
theorem checked_within_bounds (hsource : source.length < wordLimit) :
    (∀ (a : Assembler) (cs : List Capture),
      a.checkedRun source cs = .ok (a.run source cs, a.trace source cs)) ∧
    (∀ cs : List Capture, checkedOutline source cs = .ok (buildOutline source cs)) ∧
    ∀ nodes : List TaggedNode, checkedCaptures nodes = .ok (captures nodes) ∧
      (checkedCaptures nodes >>= checkedOutline source)
        = .ok (buildOutline source (captures nodes)) := by
  refine ⟨Assembler.checkedRun_eq hsource, checkedOutline_eq hsource, fun nodes => ?_⟩
  refine ⟨checkedCaptures_eq nodes, ?_⟩
  rw [checkedCaptures_eq, pure_bind, checkedOutline_eq hsource]
  rfl

/-- Captures with the greatest rows and columns there are, in rows with characters of several
    bytes. -/
theorem checked_within_bounds_extreme :
    let greatest := wordLimit - 1
    let source := ["fn maß(ä: Länge) ->".toList, "".toList, "class Straße \x7b".toList, "".toList]
    let cs : List Capture :=
      [⟨0, greatest, .signature, some ⟨greatest, greatest⟩⟩, ⟨2, greatest, .classDefinition, none⟩,
        ⟨3, greatest, .comment, none⟩, ⟨greatest, greatest, .importClause, none⟩]
    let node : TaggedNode :=
      ⟨"definition.function".toList, ⟨0, 0⟩, ⟨greatest, 0⟩, some ⟨0, greatest⟩⟩
    source.length < wordLimit ∧
    Assembler.empty.checkedRun source cs.reverse
      = .ok (Assembler.empty.run source cs.reverse, Assembler.empty.trace source cs.reverse) ∧
    checkedOutline source cs = .ok ⟨"fn maß(ä: Länge)\n\nclass Straße".toList, []⟩ ∧
    (checkedCaptures [node] >>= checkedOutline source) = .ok ⟨"fn maß(ä: Länge)".toList, []⟩ := by
  intro greatest source cs node
  have hsource : source.length < wordLimit := by decide
  have hsorted : byStartRow cs = cs := List.mergeSort_of_pairwise (by decide)
  have houtline : buildOutline source cs
      = ⟨"fn maß(ä: Länge)\n\nclass Straße".toList, []⟩ := by
    rw [buildOutline, hsorted]
    decide +kernel
  have hcapture : captures [node] = [⟨0, greatest - 1, .signature, some ⟨0, greatest⟩⟩] := by decide
  have hnode : buildOutline source (captures [node]) = ⟨"fn maß(ä: Länge)".toList, []⟩ := by
    rw [hcapture, buildOutline, byStartRow, List.mergeSort_singleton]
    decide +kernel
  obtain ⟨hrun, hchecked, hnodes⟩ := checked_within_bounds hsource
  exact ⟨hsource, hrun _ _, houtline ▸ hchecked cs, hnode ▸ (hnodes [node]).2⟩

end Synopsis
