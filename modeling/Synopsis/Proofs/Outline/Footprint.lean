import Synopsis.Proofs.Outline.StartOrder
import Synopsis.Proofs.Text.Trim

namespace Synopsis

/-!
# The rows that an outline depends on

A capture reads some rows of the source only.  Sources of the same length that agree on these
rows have the same outline, and the same records are made on the way to it.

* `Capture.searchStop` — the row at which the search for the end of a header stops;
* `Capture.footprint` — the rows that a capture reads;
* `Capture.text_congr`, `Capture.chunk?_congr` — what a capture contributes is told by them;
* `buildOutline_congr_footprint` — and so is the outline.
-/

/-! ### Footprints -/

/-- The rows from `first` to `last`. -/
def rowNumbers (first last : Nat) : List Nat := List.range' first (last + 1 - first)

theorem mem_rowNumbers {first last row : Nat} :
    row ∈ rowNumbers first last ↔ first ≤ row ∧ row ≤ last := by
  rw [rowNumbers, List.mem_range'_1]
  omega

/-- Whether the row holds a closing parenthesis and ends, white space aside, in a terminator. -/
def closesHeader (row : Text) : Bool :=
  row.contains ')' && Terminator.all.any fun t => endsWith t.mark (trim row)

/-- The last row of a capture that exists. -/
def Capture.lastIn (c : Capture) (source : List Text) : Nat := min c.endRow (source.length - 1)

/-- The last row at which the end of a header is looked for: the row of a known body, moved into
    the capture, or the last row of the capture. -/
def Capture.searchLimit (c : Capture) (source : List Text) : Nat :=
  match c.body with
  | some b => max c.startRow (min b.row (c.lastIn source))
  | none => c.lastIn source

/-- The row at which the search for the end of a header stops: the first one that closes it, or
    the last one that is looked at. -/
def Capture.searchStop (c : Capture) (source : List Text) : Nat :=
  ((rowNumbers c.startRow (c.searchLimit source)).find? fun row =>
    source[row]?.any closesHeader).getD (c.searchLimit source)

/-- The rows that a capture reads. -/
def Capture.footprint (c : Capture) (source : List Text) : List Nat :=
  match c.kind with
  | .comment | .typeDefinition | .importClause | .property =>
    rowNumbers c.startRow (c.lastIn source)
  | .classDefinition =>
    c.startRow ::
      if c.startRow < c.endRow ∧ c.startRow + 1 < source.length then [c.startRow + 1] else []
  | .signature => rowNumbers c.startRow (c.searchStop source)
  | .irrelevant => []

-- The search stops at the second row, so the body below it is not read.
example : (Capture.mk 0 3 .signature none).footprint
    ["f(a,".toList, "  b) \x7b".toList, "  g();".toList, "\x7d".toList] = [0, 1] := by decide

/-- The two sources have the same rows at these places. -/
def AgreeOn (rows : List Nat) (source source' : List Text) : Prop :=
  ∀ row ∈ rows, source[row]? = source'[row]?

instance (rows : List Nat) (source source' : List Text) :
    Decidable (AgreeOn rows source source') :=
  inferInstanceAs (Decidable (∀ row ∈ rows, _))

/-! ### Spans -/

/-- The rows of a span are told by what stands there. -/
theorem rowsIn_congr {source source' : List Text} {first last : Nat}
    (h : AgreeOn (rowNumbers first last) source source') :
    rowsIn source first last = rowsIn source' first last := by
  apply List.ext_getElem?
  intro i
  rw [getElem?_rowsIn, getElem?_rowsIn]
  split
  · exact h (first + i) (mem_rowNumbers.2 ⟨by omega, by assumption⟩)
  · rfl

theorem lastRow_eq_lastIn {c : Capture} {source : List Text} (hin : c.isIn source = true) :
    lastRow source c.startRow c.endRow = c.lastIn source := by
  obtain ⟨hstart, hend⟩ := Capture.isIn_iff.1 hin
  rw [lastRow, Capture.lastIn]
  omega

/-! ### Headers -/

/-- A row can close a header exactly if it has a terminator. -/
theorem isSome_terminator? (row : Text) : (terminator? row).isSome = closesHeader row := by
  have hparen : ')' ∈ trim row ↔ ')' ∈ row := mem_trim_iff (by decide)
  rw [terminator?, closesHeader]
  by_cases h : ')' ∈ row
  · simp only [hparen, h, if_true, List.isSome_find?, List.contains_eq_mem, decide_true,
      Bool.true_and]
  · simp only [hparen, h, if_false, Option.isSome_none, List.contains_eq_mem, decide_false,
      Bool.false_and]

/-- The row that closes a header is told by the rows up to it. -/
theorem closingRow?_congr {rows rows' : List Text}
    (h : ∀ i : Nat, (∀ j < i, rows[j]?.any closesHeader = false) → rows[i]? = rows'[i]?) :
    closingRow? rows = closingRow? rows' ∧ (closingRow? rows = none → rows = rows') := by
  induction rows generalizing rows' with
  | nil =>
    have hhead := h 0 fun j hj => absurd hj (Nat.not_lt_zero j)
    cases rows' with
    | nil => exact ⟨rfl, fun _ => rfl⟩
    | cons row' rest' => simp at hhead
  | cons row rest ih =>
    have hhead := h 0 fun j hj => absurd hj (Nat.not_lt_zero j)
    cases rows' with
    | nil => simp at hhead
    | cons row' rest' =>
      obtain rfl : row = row' := by simpa using hhead
      rw [closingRow?, closingRow?]
      cases ht : terminator? row with
      | some t => simp
      | none =>
        -- The row does not close the header, so the rows below it agree up to the one that does.
        have hopen : closesHeader row = false := by
          rw [← isSome_terminator?, ht]
          rfl
        have hrest : ∀ i : Nat, (∀ j < i, rest[j]?.any closesHeader = false) →
            rest[i]? = rest'[i]? := by
          intro i hi
          refine h (i + 1) fun j hj => ?_
          cases j with
          | zero => exact hopen
          | succ j => exact hi j (by omega)
        obtain ⟨hclosing, hnone⟩ := ih hrest
        simp only [hclosing, true_and]
        intro hmap
        rw [hnone (by simpa [hclosing] using hmap)]

theorem headerRows_congr {rows rows' : List Text} (column? : Option Nat)
    (h : ∀ i : Nat, (∀ j < i, rows[j]?.any closesHeader = false) → rows[i]? = rows'[i]?) :
    headerRows rows column? = headerRows rows' column? := by
  obtain ⟨hclosing, hnone⟩ := closingRow?_congr h
  cases hc : closingRow? rows with
  | none => rw [hnone hc]
  | some closing =>
    unfold headerRows
    rw [← hclosing, hc]

/-! ### The search for the end of a header -/

/-- No row above the one at which the search stops closes the header. -/
theorem Capture.le_searchStop {c : Capture} {source : List Text} {row : Nat}
    (hlimit : row ≤ c.searchLimit source)
    (hopen : ∀ earlier, c.startRow ≤ earlier → earlier < row →
      source[earlier]?.any closesHeader = false) : row ≤ c.searchStop source := by
  rw [searchStop]
  cases hfind : (rowNumbers c.startRow (c.searchLimit source)).find? fun row =>
      source[row]?.any closesHeader with
  | none => exact hlimit
  | some stop =>
    show row ≤ stop
    by_contra hlt
    have hcloses := List.find?_some hfind
    have hmem := mem_rowNumbers.1 (List.mem_of_find?_eq_some hfind)
    rw [hopen stop hmem.1 (by omega)] at hcloses
    cases hcloses

theorem Capture.searchStop_le (c : Capture) (source : List Text) :
    c.searchStop source ≤ c.searchLimit source := by
  rw [searchStop]
  cases hfind : (rowNumbers c.startRow (c.searchLimit source)).find? fun row =>
      source[row]?.any closesHeader with
  | none => exact Nat.le_refl _
  | some stop => exact (mem_rowNumbers.1 (List.mem_of_find?_eq_some hfind)).2

theorem headerLimit_eq_searchLimit {c : Capture} {source : List Text}
    (hin : c.isIn source = true) :
    headerLimit source c.startRow c.endRow c.body = c.searchLimit source := by
  have hlast := lastRow_eq_lastIn hin
  cases hb : c.body <;> simp only [headerLimit, Capture.searchLimit, hb, hlast]

/-! ### Captures -/

section

variable {c : Capture} {source source' : List Text}

theorem Capture.lastIn_congr (hlen : source.length = source'.length) :
    c.lastIn source = c.lastIn source' := by
  rw [lastIn, lastIn, hlen]

theorem Capture.searchLimit_congr (hlen : source.length = source'.length) :
    c.searchLimit source = c.searchLimit source' := by
  rw [searchLimit, searchLimit, lastIn_congr hlen]

theorem Capture.isIn_congr (hlen : source.length = source'.length) :
    c.isIn source = c.isIn source' := by
  rw [isIn, isIn, hlen]

/-- A span in full reads all its rows. -/
theorem verbatim_congr (hlen : source.length = source'.length) (hin : c.isIn source = true)
    (h : AgreeOn (rowNumbers c.startRow (c.lastIn source)) source source') :
    verbatim source c.startRow c.endRow = verbatim source' c.startRow c.endRow := by
  have hin' : c.isIn source' = true := by rw [← Capture.isIn_congr hlen, hin]
  rw [verbatim, verbatim, lastRow_eq_lastIn hin, lastRow_eq_lastIn hin',
    ← Capture.lastIn_congr hlen, rowsIn_congr h]

/-- A class header reads the first row, and the second if it belongs to the class. -/
theorem classHeader_congr {startRow endRow : Nat}
    (hfirst : source[startRow]? = source'[startRow]?)
    (hnext : startRow < endRow → source[startRow + 1]? = source'[startRow + 1]?) :
    classHeader source startRow endRow = classHeader source' startRow endRow := by
  have hrow : ∀ row, source[row]? = source'[row]? →
      rowsIn source row row = rowsIn source' row row := by
    intro row h
    rw [rowsIn_self, rowsIn_self, h]
  rw [classHeader, classHeader, classRows, classRows, hrow startRow hfirst]
  by_cases hlt : startRow < endRow
  · rw [hrow (startRow + 1) (hnext hlt)]
  · rw [if_neg hlt, if_neg hlt]

/-- A signature reads the rows up to the one at which the search for its end stops. -/
theorem signature_congr (hlen : source.length = source'.length) (hin : c.isIn source = true)
    (h : AgreeOn (rowNumbers c.startRow (c.searchStop source)) source source') :
    signature source c.startRow c.endRow c.body = signature source' c.startRow c.endRow c.body := by
  have hin' : c.isIn source' = true := by rw [← Capture.isIn_congr hlen, hin]
  simp only [signature, headerLimit_eq_searchLimit hin, headerLimit_eq_searchLimit hin',
    ← Capture.searchLimit_congr hlen]
  congr 2
  apply headerRows_congr
  intro i hi
  rw [getElem?_rowsIn, getElem?_rowsIn]
  split
  · rename_i hlimit
    refine h _ (mem_rowNumbers.2 ⟨by omega, Capture.le_searchStop hlimit ?_⟩)
    -- The rows above this one are rows of the search, and none of them closes the header.
    intro earlier hstart hlt
    have hrow := hi (earlier - c.startRow) (by omega)
    rwa [getElem?_rowsIn, if_pos (by omega), Nat.add_sub_cancel' hstart] at hrow
  · rfl

/-- **What a capture contributes is told by the rows it reads.** -/
theorem Capture.text_congr (hlen : source.length = source'.length) (hin : c.isIn source = true)
    (h : AgreeOn (c.footprint source) source source') : c.text source = c.text source' := by
  rw [footprint] at h
  rw [text, text]
  cases hk : c.kind with
  | irrelevant => rfl
  | classDefinition =>
    simp only [hk] at h
    refine classHeader_congr (h _ List.mem_cons_self) fun hlt => ?_
    by_cases hnext : c.startRow + 1 < source.length
    · exact h _ (by simp [hlt, hnext])
    · rw [List.getElem?_eq_none (by omega), List.getElem?_eq_none (by omega)]
  | signature =>
    simp only [hk] at h
    exact signature_congr hlen hin h
  | _ =>
    simp only [hk] at h
    exact verbatim_congr hlen hin h

theorem Capture.chunk?_congr (hlen : source.length = source'.length)
    (h : c.isIn source = true → AgreeOn (c.footprint source) source source') :
    c.chunk? source = c.chunk? source' := by
  rw [chunk?, chunk?, ← isIn_congr hlen]
  split
  · rename_i hin
    rw [text_congr hlen hin (h hin)]
  · rfl

end

/-! ### Outlines -/

/-- **An outline is told by the rows its captures read.**  Sources of the same length that agree
    on the rows read by the captures that lie in the source have the same outline, and the same
    records are made.  In particular, a signature reads no row below the one at which the search
    for its end stops, and none below the first row of a known body, moved into the capture. -/
theorem buildOutline_congr_footprint (source source' : List Text) (cs : List Capture)
    (hlen : source.length = source'.length)
    (h : ∀ c ∈ cs, c.isIn source = true → AgreeOn (c.footprint source) source source') :
    buildOutline source cs = buildOutline source' cs ∧
    ∀ c ∈ cs, c.kind = .signature → ∀ row ∈ c.footprint source,
      row ≤ c.searchStop source ∧ ∀ b, c.body = some b → row ≤ max c.startRow b.row := by
  constructor
  · have hchunks : ∀ c ∈ byStartRow cs, c.chunk? source = c.chunk? source' := fun c hc =>
      Capture.chunk?_congr hlen (h c ((byStartRow_perm cs).mem_iff.1 hc))
    obtain ⟨htrace, hrun⟩ := Assembler.trace_congr hchunks .empty
    simp only [buildOutline, htrace, hrun]
  · intro c _ hk row hrow
    rw [Capture.footprint, hk] at hrow
    have hstop := (mem_rowNumbers.1 hrow).2
    refine ⟨hstop, fun b hb => ?_⟩
    have hlimit := c.searchStop_le source
    rw [Capture.searchLimit, hb] at hlimit
    simp only at hlimit
    omega

/-- What stands in a body below its first row has no influence. -/
theorem buildOutline_congr_footprint_body :
    let source := ["fn build(x: T)".toList, "where".toList, "\x7b".toList, "  call(x) \x7b".toList]
    let source' := ["fn build(x: T)".toList, "where".toList, "\x7b".toList, "  x;".toList]
    let cs : List Capture := [⟨0, 3, .signature, some ⟨2, 0⟩⟩]
    source.length = source'.length ∧
    (∀ c ∈ cs, c.isIn source = true → AgreeOn (c.footprint source) source source') ∧
    buildOutline source cs = buildOutline source' cs := by
  intro source source' cs
  have hlen : source.length = source'.length := rfl
  have hagree : ∀ c ∈ cs, c.isIn source = true → AgreeOn (c.footprint source) source source' := by
    decide
  exact ⟨hlen, hagree, (buildOutline_congr_footprint source source' cs hlen hagree).1⟩

end Synopsis
