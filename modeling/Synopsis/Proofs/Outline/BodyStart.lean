import Synopsis.Proofs.Outline.Footprint

namespace Synopsis

/-!
# Headers in front of a known body

The row on which a body opens is searched as a whole, like the rows above it.  Unless it can close
the header, it is cut where the body opens, and nothing of the body has any influence.  If it can,
it is cut at the mark that closes it, or not at all, wherever the body opens.

* `rowsBefore` — the rows of a header above the row on which the body opens;
* `trim_joinRows_cutLastRow` — cutting that row leaves the text up to the body;
* `signature_of_body` — the header that is closed above that row, by that row, or not at all;
* `signature_congr_before_body` — what of the body has no influence, and what has.
-/

/-! ### Rows above a row -/

/-- The rows of a header above a row. -/
def rowsBefore (source : List Text) (startRow row : Nat) : List Text :=
  (source.drop startRow).take (row - startRow)

theorem rowsIn_eq_concat {source : List Text} {startRow r : Nat} {row : Text}
    (hstart : startRow ≤ r) (hrow : source[r]? = some row) :
    rowsIn source startRow r = rowsBefore source startRow r ++ [row] := by
  have hlen : r + 1 - startRow = r - startRow + 1 := by omega
  have hlast : (source.drop startRow)[r - startRow]? = some row := by
    rw [List.getElem?_drop, Nat.add_sub_cancel' hstart, hrow]
  rw [rowsIn, rowsBefore, hlen, List.take_add_one, hlast]
  rfl

/-- The rows above a row are told by what stands there. -/
theorem rowsBefore_congr {source source' : List Text} {startRow r : Nat}
    (h : ∀ i, startRow ≤ i → i < r → source[i]? = source'[i]?) :
    rowsBefore source startRow r = rowsBefore source' startRow r := by
  apply List.ext_getElem?
  intro i
  rw [rowsBefore, rowsBefore, List.getElem?_take, List.getElem?_take, List.getElem?_drop,
    List.getElem?_drop]
  split
  · exact h (startRow + i) (by omega) (by omega)
  · rfl

/-! ### The row on which the body opens -/

/-- It is of no account whether the last row was trimmed at its end. -/
theorem trim_joinRows_trimEnd (rows : List Text) (row : Text) :
    trim (joinRows (rows ++ [trimEnd row])) = trim (joinRows (rows ++ [row])) := by
  by_cases hrows : rows = []
  · subst hrows
    simpa [joinRows] using trim_append_trimEnd [] row
  · rw [joinRows_concat hrows, joinRows_concat hrows, trim_append_trimEnd]

/-- Cutting the last row leaves what stands before the column, white space at the ends aside. -/
theorem trim_joinRows_cutLastRow (rows : List Text) (row : Text) (column : Nat) :
    trim (joinRows (cutLastRow (rows ++ [row]) column))
      = trim (joinRows (rows ++ [(bytePrefix? row column).getD row])) := by
  simp only [cutLastRow, List.getLast?_concat, List.dropLast_concat]
  generalize (bytePrefix? row column).getD row = head
  split
  · -- The cut row is white space, which would be trimmed anyway.
    rename_i hdropped
    have hblank : ∀ c ∈ ['\n'] ++ trimEnd head, isBlank c = true := by
      intro c hc
      rcases List.mem_append.1 hc with hc | hc
      · rw [List.mem_singleton.1 hc]
        decide
      · exact isBlank_of_trim_eq_nil hdropped.1 c hc
    rw [← trim_joinRows_trimEnd, joinRows_concat hdropped.2, List.append_assoc,
      trim_append_blank hblank]
  · exact trim_joinRows_trimEnd rows head

/-- The first row that closes a header is one above the last row, or else the last row. -/
theorem closingRow?_concat (rows : List Text) (row : Text) :
    closingRow? (rows ++ [row])
      = (closingRow? rows).or ((terminator? row).map fun t => (rows, row, t)) := by
  induction rows with
  | nil =>
    rw [List.nil_append, closingRow?, closingRow?, Option.none_or]
    cases terminator? row <;> rfl
  | cons first rest ih =>
    rw [List.cons_append, closingRow?, closingRow?]
    cases terminator? first with
    | some t => rfl
    | none =>
      simp only [ih]
      cases closingRow? rest <;> cases terminator? row <;> rfl

/-- A row closes the header if one of the rows does. -/
theorem isSome_closingRow? (rows : List Text) :
    (closingRow? rows).isSome = rows.any closesHeader := by
  induction rows with
  | nil => rfl
  | cons row rest ih =>
    rw [closingRow?, List.any_cons, ← isSome_terminator?]
    cases terminator? row with
    | some t => rfl
    | none =>
      rw [Option.isSome_map, ih]
      rfl

/-! ### Signatures -/

/-- A row that closes a header, as far as it is kept. -/
def keptRow (row : Text) (t : Terminator) : Text :=
  if t.opensBody then trimEnd (upTo t.mark row) else row

section

variable {source : List Text} {startRow endRow r column : Nat} {row head : Text}

/-- **The header in front of a known body.**  If a row above the one on which the body opens closes
    the header, that row is not even read.  If none does, nor that row itself, the header is what
    stands before the body.  If that row does, it is kept up to its mark. -/
theorem signature_of_body (hstart : startRow ≤ r) (hend : r ≤ endRow)
    (hrow : source[r]? = some row) (hhead : bytePrefix? row column = some head) :
    ((rowsBefore source startRow r).any closesHeader = true →
      signature source startRow endRow (some ⟨r, column⟩)
        = trim (joinRows (headerRows (rowsBefore source startRow r) none))) ∧
    ((rowsBefore source startRow r).any closesHeader = false →
      (terminator? row = none →
        signature source startRow endRow (some ⟨r, column⟩)
          = trim (joinRows (rowsBefore source startRow r ++ [head]))) ∧
      ∀ t, terminator? row = some t →
        signature source startRow endRow (some ⟨r, column⟩)
          = trim (joinRows (rowsBefore source startRow r ++ [keptRow row t]))) := by
  have hlimit : headerLimit source startRow endRow (some ⟨r, column⟩) = r := by
    have hlt : r < source.length := (List.getElem?_eq_some_iff.1 hrow).1
    simp only [headerLimit, lastRow]
    omega
  have hsignature : signature source startRow endRow (some ⟨r, column⟩)
      = trim (joinRows (headerRows (rowsBefore source startRow r ++ [row]) (some column))) := by
    have hcolumn : ((some (Position.mk r column)).filter (·.row = r)).map (·.column)
        = some column := by
      simp [Option.filter]
    rw [signature, hlimit, rowsIn_eq_concat hstart hrow, hcolumn]
  rw [hsignature, ← isSome_closingRow?, headerRows, headerRows, closingRow?_concat]
  cases closingRow? (rowsBefore source startRow r) with
  | some closing => exact ⟨fun _ => rfl, fun h => absurd h.symm Bool.false_ne_true⟩
  | none =>
    refine ⟨fun h => absurd h Bool.false_ne_true, fun _ => ⟨fun ht => ?_, fun t ht => ?_⟩⟩
    · rw [ht]
      show trim (joinRows (cutLastRow (rowsBefore source startRow r ++ [row]) column)) = _
      rw [trim_joinRows_cutLastRow, hhead, Option.getD_some]
    · rw [ht]
      rfl

variable {source' : List Text} {row' : Text}

/-- **What of a body has influence on its header.**  Two sources that agree on the rows above a
    body and on what stands before it on its row have the same header if a row above closes it,
    or if the body's row closes it in neither of them.  Otherwise the body's row is kept up to its
    mark, and the body with it. -/
theorem signature_congr_before_body (hstart : startRow ≤ r) (hend : r ≤ endRow)
    (hrow : source[r]? = some row) (hrow' : source'[r]? = some row')
    (habove : ∀ i, startRow ≤ i → i < r → source[i]? = source'[i]?)
    (hhead : bytePrefix? row column = some head) (hhead' : bytePrefix? row' column = some head) :
    ((rowsBefore source startRow r).any closesHeader = true ∨
        closesHeader row = false ∧ closesHeader row' = false →
      signature source startRow endRow (some ⟨r, column⟩)
        = signature source' startRow endRow (some ⟨r, column⟩)) ∧
    ((rowsBefore source startRow r).any closesHeader = false →
      ∀ t, terminator? row = some t →
        signature source startRow endRow (some ⟨r, column⟩)
          = trim (joinRows (rowsBefore source startRow r ++ [keptRow row t]))) := by
  obtain ⟨hclosed, hopen⟩ := signature_of_body hstart hend hrow hhead
  obtain ⟨hclosed', hopen'⟩ := signature_of_body hstart hend hrow' hhead'
  rw [← rowsBefore_congr habove] at hclosed' hopen'
  refine ⟨fun h => ?_, fun h => (hopen h).2⟩
  cases hrows : (rowsBefore source startRow r).any closesHeader with
  | true => rw [hclosed hrows, hclosed' hrows]
  | false =>
    rw [hrows] at h
    obtain ⟨hnone, hnone'⟩ := h.resolve_left Bool.false_ne_true
    rw [← isSome_terminator?, Option.isSome_eq_false_iff, Option.isNone_iff_eq_none]
      at hnone hnone'
    rw [(hopen hrows).1 hnone, (hopen' hrows).1 hnone']

end

/-- A body that opens behind a `where` clause has no influence; one that ends in a semicolon stands
    in the header. -/
theorem signature_congr_before_body_where :
    let first := "fn f(x: T) -> T".toList
    let row := "where T: C \x7b g(x) \x7d".toList
    let row' := "where T: C \x7b h(x); x \x7d".toList
    let definition := "def f(x): return x;".toList
    ((closesHeader row = false ∧ closesHeader row' = false) ∧
      signature [first, row] 0 1 (some ⟨1, 11⟩) = signature [first, row'] 0 1 (some ⟨1, 11⟩)) ∧
    ((rowsBefore [definition] 0 0).any closesHeader = false ∧
      terminator? definition = some .semicolon ∧
      signature [definition] 0 0 (some ⟨0, 10⟩) = trim (joinRows [definition])) := by
  intro first row row' definition
  have hopen : closesHeader row = false ∧ closesHeader row' = false := by decide
  have hrow : [first, row][1]? = some row := rfl
  have hrow' : [first, row'][1]? = some row' := rfl
  have habove : ∀ i, 0 ≤ i → i < 1 → [first, row][i]? = [first, row'][i]? := by
    intro i _ hi
    obtain rfl : i = 0 := by omega
    rw [List.getElem?_cons_zero, List.getElem?_cons_zero]
  have hhead : bytePrefix? row 11 = some "where T: C ".toList := by decide
  have hhead' : bytePrefix? row' 11 = some "where T: C ".toList := by decide
  have hone : [definition][0]? = some definition := rfl
  have hcolumn : bytePrefix? definition 10 = some "def f(x): ".toList := by decide
  have hclosed : (rowsBefore [definition] 0 0).any closesHeader = false := rfl
  have hmark : terminator? definition = some .semicolon := by decide
  exact ⟨⟨hopen, (signature_congr_before_body (Nat.zero_le 1) (Nat.le_refl 1) hrow hrow' habove
      hhead hhead').1 (Or.inr hopen)⟩,
    ⟨hclosed, hmark, (signature_congr_before_body (Nat.le_refl 0) (Nat.le_refl 0) hone hone
      (fun _ _ _ => rfl) hcolumn hcolumn).2 hclosed _ hmark⟩⟩

/-- A body of one statement on the row of its header, ended by a semicolon, stands in the header:
    the header changes with it, although the bytes before the body are the same. -/
theorem signature_keeps_one_line_body :
    let row := "def f(x): return x;".toList
    let row' := "def f(x): return y;".toList
    bytePrefix? row 10 = some "def f(x): ".toList ∧
    bytePrefix? row' 10 = bytePrefix? row 10 ∧
    signature [row] 0 0 (some ⟨0, 10⟩) = row ∧
    signature [row] 0 0 (some ⟨0, 10⟩) ≠ signature [row'] 0 0 (some ⟨0, 10⟩) := by
  decide

end Synopsis
