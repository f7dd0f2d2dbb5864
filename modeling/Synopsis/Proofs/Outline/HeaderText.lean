import Mathlib.Data.Nat.Find
import Synopsis.Proofs.Outline.BodyStart
import Synopsis.Proofs.Text.Cutting

namespace Synopsis

/-!
# Headers as pieces of a source

A header is one piece of its source, from the start of its first row to a place further on, without
the white space at either end.  Where that place is depends on the first row that closes the header
and, without such a row, on the body.

* `terminator?_eq_some_iff` — a row ends in at most one terminator;
* `textTo` — the text of a source up to a place;
* `Capture.IsClosedAt`, `Capture.IsOpen` — the first row that closes a header, and none;
* `Capture.HeaderStop` — the place at which a header stops;
* `signature_of_isClosedAt`, `signature_of_isOpen` — the header with and without a closing row;
* `signature_eq_trim_textTo` — a header is the text up to the place at which it stops.
-/

/-! ### Terminators -/

/-- No two terminators end the same text. -/
theorem Terminator.eq_of_endsWith {t u : Terminator} {s : Text} (ht : endsWith t.mark s = true)
    (hu : endsWith u.mark s = true) : t = u := by
  -- One of the marks would end the other one.
  have hmarks : ∀ t u : Terminator, t.mark <:+ u.mark → t = u := by
    intro t u
    cases t <;> cases u <;> decide
  rw [endsWith, List.isSuffixOf_iff_suffix] at ht hu
  rcases List.suffix_or_suffix_of_suffix ht hu with h | h
  · exact hmarks t u h
  · exact (hmarks u t h).symm

/-- The terminator of a row is told by how the row ends. -/
theorem terminator?_eq_some_iff {row : Text} {t : Terminator} :
    terminator? row = some t ↔ ')' ∈ row ∧ endsWith t.mark (trim row) = true := by
  have hparen : ')' ∈ trim row ↔ ')' ∈ row := mem_trim_iff (by decide)
  rw [terminator?]
  by_cases h : ')' ∈ row
  · simp only [hparen, h, if_true, true_and]
    constructor
    · intro hfind
      simpa using List.find?_some hfind
    · intro hends
      cases hfind : Terminator.all.find? fun u => endsWith u.mark (trim row) with
      | none =>
        have hnone := List.find?_eq_none.1 hfind t (by cases t <;> decide)
        exact absurd hends hnone
      | some u =>
        have hu : endsWith u.mark (trim row) = true := by simpa using List.find?_some hfind
        rw [Terminator.eq_of_endsWith hu hends]
  · simp [hparen, h]

/-- The mark of its terminator stands in the row. -/
theorem exists_append_mark_prefix {row : Text} {t : Terminator}
    (h : endsWith t.mark (trim row) = true) : ∃ before, before ++ t.mark <+: row := by
  obtain ⟨before, after, hrow, -, -⟩ := exists_append_trim row
  obtain ⟨front, hfront⟩ := List.isSuffixOf_iff_suffix.1 h
  refine ⟨before ++ front, after, ?_⟩
  rw [List.append_assoc before, hfront]
  exact hrow.symm

/-! ### Rows -/

/-- Rows up to a place in one of them are a beginning of all the rows. -/
theorem joinRows_concat_prefix {head row : Text} (h : head <+: row) (rows after : List Text) :
    joinRows (rows ++ [head]) <+: joinRows (rows ++ row :: after) := by
  induction rows with
  | nil =>
    have hrow : joinRows [head] <+: row := by simpa [joinRows] using h
    cases after with
    | nil => simpa [joinRows] using hrow
    | cons next after =>
      rw [List.nil_append, List.nil_append, joinRows_cons (List.cons_ne_nil _ _),
        List.append_assoc]
      exact hrow.trans (List.prefix_append _ _)
  | cons first rest ih =>
    rw [List.cons_append, List.cons_append, joinRows_cons (by simp), joinRows_cons (by simp)]
    exact (List.prefix_append_right_inj _).2 ih

section

variable {source : List Text} {startRow r : Nat} {row head : Text}

/-- The rows up to a row are a beginning of all the rows that start where they do. -/
theorem eq_rowsBefore_append {rows : List Text} (hstart : startRow ≤ r)
    (hrow : source[r]? = some row) (h : rowsIn source startRow r <+: rows) :
    ∃ after, rows = rowsBefore source startRow r ++ row :: after := by
  obtain ⟨after, hafter⟩ := h
  refine ⟨after, ?_⟩
  rw [← hafter, rowsIn_eq_concat hstart hrow, List.append_assoc, List.singleton_append]

theorem any_closesHeader_rowsBefore
    (h : ∀ i, startRow ≤ i → i < r → source[i]?.any closesHeader = false) :
    (rowsBefore source startRow r).any closesHeader = false := by
  refine List.any_eq_false.2 fun row hmem => ?_
  obtain ⟨i, hi⟩ := List.mem_iff_getElem?.1 hmem
  rw [rowsBefore, List.getElem?_take, List.getElem?_drop] at hi
  split at hi
  · have hopen := h (startRow + i) (by omega) (by omega)
    rw [hi] at hopen
    simpa using hopen
  · cases hi

/-- The first row that closes a header is found behind rows that do not. -/
theorem closingRow?_append_cons {before : List Text} {t : Terminator}
    (hbefore : before.any closesHeader = false) (ht : terminator? row = some t)
    (after : List Text) : closingRow? (before ++ row :: after) = some (before, row, t) := by
  induction before with
  | nil => rw [List.nil_append, closingRow?, ht]
  | cons first rest ih =>
    rw [List.any_cons, Bool.or_eq_false_iff] at hbefore
    have hfirst : terminator? first = none := by
      rw [← Option.isNone_iff_eq_none, ← Option.isSome_eq_false_iff, isSome_terminator?]
      exact hbefore.1
    rw [List.cons_append, closingRow?, hfirst]
    simp only [ih hbefore.2, Option.map_some]

/-! ### Places -/

/-- The text of the source from the start of a row to a place. -/
def textTo (source : List Text) (startRow : Nat) (stop : Position) : Text :=
  joinRows (rowsBefore source startRow stop.row
    ++ (source[stop.row]?.bind (bytePrefix? · stop.column)).toList)

/-- Up to a place stand the rows above it, and what stands before it on its row. -/
theorem textTo_eq (hrow : source[r]? = some row) (hhead : head <+: row) :
    textTo source startRow ⟨r, byteLength head⟩
      = joinRows (rowsBefore source startRow r ++ [head]) := by
  simp only [textTo, hrow, Option.bind_some, bytePrefix?_byteLength hhead, Option.toList_some]

/-- It is a beginning of all the text from the start of the row. -/
theorem textTo_prefix (hstart : startRow ≤ r) (hrow : source[r]? = some row)
    (hhead : head <+: row) :
    textTo source startRow ⟨r, byteLength head⟩ <+: joinRows (source.drop startRow) := by
  obtain ⟨after, hdrop⟩ := eq_rowsBefore_append hstart hrow (List.take_prefix _ _)
  rw [textTo_eq hrow hhead, hdrop]
  exact joinRows_concat_prefix hhead _ after

end

/-! ### Where a header stops -/

section

variable (c : Capture) (source : List Text)

/-- The row is the first one of those that are looked at that closes the header of the capture,
    and it ends in the terminator. -/
structure Capture.IsClosedAt (r : Nat) (row : Text) (t : Terminator) : Prop where
  /-- It is not above the capture. -/
  start : c.startRow ≤ r
  /-- It is not below the last row that is looked at. -/
  limit : r ≤ c.searchLimit source
  /-- It stands in the source. -/
  getElem : source[r]? = some row
  /-- It holds a closing parenthesis. -/
  paren : ')' ∈ row
  /-- It ends in the mark of the terminator, white space aside. -/
  mark : endsWith t.mark (trim row) = true
  /-- No row above it closes the header. -/
  first : ∀ i, c.startRow ≤ i → i < r → source[i]?.any closesHeader = false

/-- No row that is looked at closes the header of the capture. -/
def Capture.IsOpen : Prop :=
  ∀ i, c.startRow ≤ i → i ≤ c.searchLimit source → source[i]?.any closesHeader = false

/-- The place at which the header of a capture stops. -/
inductive Capture.HeaderStop : Position → Prop
  /-- In front of the first mark on the row that closes the header, if the mark opens the body. -/
  | mark {r : Nat} {row head : Text} {t : Terminator} (h : c.IsClosedAt source r row t)
      (ht : t.opensBody = true) (hhead : StandsFirst t.mark row head) :
      HeaderStop ⟨r, byteLength head⟩
  /-- At the end of the row that closes the header, if its mark belongs to the header. -/
  | closing {r : Nat} {row : Text} {t : Terminator} (h : c.IsClosedAt source r row t)
      (ht : t.opensBody = false) : HeaderStop ⟨r, byteLength row⟩
  /-- At the body, if no row closes the header and the body opens on the last row that is looked
      at, between two characters. -/
  | body {row : Text} {column : Nat} (h : c.IsOpen source)
      (hrow : source[c.searchLimit source]? = some row)
      (hbody : c.body = some ⟨c.searchLimit source, column⟩) (hcolumn : IsBoundary row column) :
      HeaderStop ⟨c.searchLimit source, column⟩
  /-- At the end of the last row that is looked at, if there is no such body. -/
  | limit {row : Text} (h : c.IsOpen source) (hrow : source[c.searchLimit source]? = some row)
      (hbody : ∀ column, c.body = some ⟨c.searchLimit source, column⟩ → ¬ IsBoundary row column) :
      HeaderStop ⟨c.searchLimit source, byteLength row⟩

end

section

variable {c : Capture} {source : List Text} {r : Nat} {row : Text} {t : Terminator}

theorem Capture.le_searchLimit (hin : c.isIn source = true) :
    c.startRow ≤ c.searchLimit source := by
  rw [← headerLimit_eq_searchLimit hin]
  exact le_headerLimit source c.startRow c.endRow c.body

theorem Capture.searchLimit_lt (hin : c.isIn source = true) :
    c.searchLimit source < source.length := by
  rw [← headerLimit_eq_searchLimit hin]
  exact headerLimit_lt (isIn_iff.1 hin).1 c.endRow c.body

theorem Capture.IsClosedAt.terminator? (h : c.IsClosedAt source r row t) :
    terminator? row = some t :=
  terminator?_eq_some_iff.2 ⟨h.paren, h.mark⟩

theorem Capture.IsClosedAt.closesHeader (h : c.IsClosedAt source r row t) :
    source[r]?.any closesHeader = true := by
  rw [h.getElem, Option.any_some, ← isSome_terminator?, h.terminator?]
  rfl

theorem Capture.IsClosedAt.not_isOpen (h : c.IsClosedAt source r row t) : ¬ c.IsOpen source := by
  intro hopen
  exact absurd h.closesHeader (by simp [hopen r h.start h.limit])

/-- A header is closed by one row, in one way. -/
theorem Capture.IsClosedAt.unique {r' : Nat} {row' : Text} {t' : Terminator}
    (h : c.IsClosedAt source r row t) (h' : c.IsClosedAt source r' row' t') :
    r = r' ∧ row = row' ∧ t = t' := by
  rcases Nat.lt_trichotomy r r' with hlt | rfl | hlt
  · exact absurd h.closesHeader (by simp [h'.first r h.start hlt])
  · obtain rfl : row = row' := Option.some.inj (h.getElem.symm.trans h'.getElem)
    exact ⟨rfl, rfl, Terminator.eq_of_endsWith h.mark h'.mark⟩
  · exact absurd h'.closesHeader (by simp [h.first r' h'.start hlt])

/-- A header is closed, or it is open. -/
theorem Capture.exists_isClosedAt_or_isOpen (c : Capture) (source : List Text) :
    (∃ r row t, c.IsClosedAt source r row t) ∨ c.IsOpen source := by
  by_cases hclosed : ∃ r, c.startRow ≤ r ∧ r ≤ c.searchLimit source ∧
      source[r]?.any Synopsis.closesHeader = true
  · -- The least row that closes the header is the first one.
    obtain ⟨hstart, hlimit, hcloses⟩ := Nat.find_spec hclosed
    cases hrow : source[Nat.find hclosed]? with
    | none =>
      rw [hrow] at hcloses
      cases hcloses
    | some row =>
      rw [hrow, Option.any_some, ← isSome_terminator?] at hcloses
      obtain ⟨t, ht⟩ := Option.isSome_iff_exists.1 hcloses
      obtain ⟨hparen, hmark⟩ := terminator?_eq_some_iff.1 ht
      refine Or.inl ⟨_, row, t, hstart, hlimit, hrow, hparen, hmark, fun i hi hlt => ?_⟩
      by_contra hearlier
      exact Nat.find_min hclosed hlt ⟨hi, by omega, by simpa using hearlier⟩
  · refine Or.inr fun i hstart hlimit => ?_
    by_contra hi
    exact hclosed ⟨i, hstart, hlimit, by simpa using hi⟩

/-! ### Closed headers -/

/-- A row that closes a header, up to a mark that opens the body. -/
def closingHead (row : Text) (t : Terminator) : Text := if t.opensBody then upTo t.mark row else row

theorem closingHead_prefix (row : Text) (t : Terminator) : closingHead row t <+: row := by
  rw [closingHead]
  split
  · exact upTo_prefix t.mark row
  · exact List.prefix_rfl

/-- It is of no account that the row is also trimmed at its end. -/
theorem trim_joinRows_keptRow (rows : List Text) (row : Text) (t : Terminator) :
    trim (joinRows (rows ++ [keptRow row t])) = trim (joinRows (rows ++ [closingHead row t])) := by
  rw [keptRow, closingHead]
  split
  · exact trim_joinRows_trimEnd rows _
  · rfl

/-- **A closed header** is kept up to the row that closes it. -/
theorem signature_of_isClosedAt (hin : c.isIn source = true) (h : c.IsClosedAt source r row t) :
    signature source c.startRow c.endRow c.body
      = trim (joinRows (rowsBefore source c.startRow r ++ [closingHead row t])) := by
  have hbegin : rowsIn source c.startRow r <+: rowsIn source c.startRow (c.searchLimit source) :=
    List.take_prefix_take_left (by have := h.limit; omega)
  obtain ⟨after, hrows⟩ := eq_rowsBefore_append h.start h.getElem hbegin
  have hclosing :=
    closingRow?_append_cons (any_closesHeader_rowsBefore h.first) h.terminator? after
  rw [signature, headerLimit_eq_searchLimit hin, hrows, headerRows.eq_def, hclosing]
  exact trim_joinRows_keptRow _ row t

/-- A closed header stops on the row that closes it. -/
theorem Capture.IsClosedAt.headerStop_iff (h : c.IsClosedAt source r row t) {stop : Position} :
    c.HeaderStop source stop ↔ stop = ⟨r, byteLength (closingHead row t)⟩ := by
  obtain ⟨before, hbefore⟩ := exists_append_mark_prefix h.mark
  constructor
  · rintro (⟨h', ht, hhead⟩ | ⟨h', ht⟩ | ⟨hopen⟩ | ⟨hopen⟩)
    · obtain ⟨rfl, rfl, rfl⟩ := h.unique h'
      rw [closingHead, if_pos ht, (standsFirst_iff hbefore).1 hhead]
    · obtain ⟨rfl, rfl, rfl⟩ := h.unique h'
      rw [closingHead, ht]
      rfl
    · exact absurd hopen h.not_isOpen
    · exact absurd hopen h.not_isOpen
  · rintro rfl
    rw [closingHead]
    split
    · rename_i ht
      exact .mark h ht (standsFirst_upTo hbefore)
    · rename_i ht
      exact .closing h (by simpa using ht)

/-! ### Open headers -/

/-- The last row that is looked at, up to the body if that opens on it. -/
def Capture.openHead (c : Capture) (source : List Text) (row : Text) : Text :=
  ((c.body.filter (·.row = c.searchLimit source)).bind (bytePrefix? row ·.column)).getD row

theorem Capture.openHead_prefix (c : Capture) (source : List Text) (row : Text) :
    c.openHead source row <+: row := by
  rw [openHead]
  cases hcut : (c.body.filter (·.row = c.searchLimit source)).bind (bytePrefix? row ·.column) with
  | none => exact List.prefix_rfl
  | some head =>
    obtain ⟨b, -, hb⟩ := Option.bind_eq_some_iff.1 hcut
    exact (bytePrefix?_eq_some_iff.1 hb).1

theorem Capture.openHead_of_body {head : Text} (hhead : head <+: row)
    (hbody : c.body = some ⟨c.searchLimit source, byteLength head⟩) :
    c.openHead source row = head := by
  rw [openHead, hbody, Option.filter_some_pos (by simp), Option.bind_some,
    bytePrefix?_byteLength hhead, Option.getD_some]

theorem Capture.openHead_of_forall
    (hbody : ∀ column, c.body = some ⟨c.searchLimit source, column⟩ → ¬ IsBoundary row column) :
    c.openHead source row = row := by
  have hcut : (c.body.filter (·.row = c.searchLimit source)).bind (bytePrefix? row ·.column)
      = none := by
    refine Option.bind_eq_none_iff.2 fun b hb => ?_
    obtain ⟨hb, hrow⟩ := Option.filter_eq_some_iff.1 hb
    exact bytePrefix?_eq_none_iff.2 (hbody b.column (by rw [hb, ← of_decide_eq_true hrow]))
  rw [openHead, hcut, Option.getD_none]

/-- **An open header** is kept up to the last row that is looked at. -/
theorem signature_of_isOpen (hin : c.isIn source = true) (h : c.IsOpen source)
    (hrow : source[c.searchLimit source]? = some row) :
    signature source c.startRow c.endRow c.body
      = trim (joinRows (rowsBefore source c.startRow (c.searchLimit source) ++
          [c.openHead source row])) := by
  have hrows := rowsIn_eq_concat (Capture.le_searchLimit hin) hrow
  have hclosing : closingRow? (rowsIn source c.startRow (c.searchLimit source)) = none := by
    rw [← Option.isNone_iff_eq_none, ← Option.isSome_eq_false_iff, isSome_closingRow?]
    exact any_closesHeader_rowsBefore fun i hstart hlt => h i hstart (by omega)
  rw [signature, headerLimit_eq_searchLimit hin, headerRows.eq_def, hclosing, hrows,
    Capture.openHead]
  cases c.body.filter (·.row = c.searchLimit source) with
  | none => rfl
  | some b => exact trim_joinRows_cutLastRow _ row b.column

/-- An open header stops on the last row that is looked at. -/
theorem Capture.IsOpen.headerStop_iff (h : c.IsOpen source)
    (hrow : source[c.searchLimit source]? = some row) {stop : Position} :
    c.HeaderStop source stop
      ↔ stop = ⟨c.searchLimit source, byteLength (c.openHead source row)⟩ := by
  constructor
  · rintro (⟨h'⟩ | ⟨h'⟩ | ⟨-, hrow', hbody, head, hhead, rfl⟩ | ⟨-, hrow', hbody⟩)
    · exact absurd h h'.not_isOpen
    · exact absurd h h'.not_isOpen
    · obtain rfl := Option.some.inj (hrow.symm.trans hrow')
      rw [openHead_of_body hhead hbody]
    · obtain rfl := Option.some.inj (hrow.symm.trans hrow')
      rw [openHead_of_forall hbody]
  · rintro rfl
    by_cases hbody : ∃ column, c.body = some ⟨c.searchLimit source, column⟩ ∧
        IsBoundary row column
    · obtain ⟨column, hbody, head, hhead, rfl⟩ := hbody
      rw [openHead_of_body hhead hbody]
      exact .body h hrow hbody ⟨head, hhead, rfl⟩
    · have hnone : ∀ column, c.body = some ⟨c.searchLimit source, column⟩ →
          ¬ IsBoundary row column :=
        fun column hb hcolumn => hbody ⟨column, hb, hcolumn⟩
      rw [openHead_of_forall hnone]
      exact .limit h hrow hnone

/-! ### Headers -/

/-- A header stops at one place, and it is the text of the rows above and of what stands before
    that place on its row. -/
theorem Capture.exists_headerStop_iff (hin : c.isIn source = true) :
    ∃ (r : Nat) (row head : Text), c.startRow ≤ r ∧ source[r]? = some row ∧ head <+: row ∧
      (∀ stop, c.HeaderStop source stop ↔ stop = ⟨r, byteLength head⟩) ∧
      signature source c.startRow c.endRow c.body
        = trim (joinRows (rowsBefore source c.startRow r ++ [head])) := by
  rcases c.exists_isClosedAt_or_isOpen source with ⟨r, row, t, h⟩ | h
  · exact ⟨r, row, closingHead row t, h.start, h.getElem, closingHead_prefix row t,
      fun _ => h.headerStop_iff, signature_of_isClosedAt hin h⟩
  · have hrow := List.getElem?_eq_getElem (searchLimit_lt hin)
    exact ⟨_, _, _, le_searchLimit hin, hrow, c.openHead_prefix source _,
      fun _ => h.headerStop_iff hrow, signature_of_isOpen hin h hrow⟩

/-- **A header is one piece of its source.**  There is one place at which it stops, and the header
    is the text from the start of its first row to that place, without the white space at either
    end. -/
theorem signature_eq_trim_textTo (hin : c.isIn source = true) :
    (∃! stop, c.HeaderStop source stop) ∧
    ∀ stop, c.HeaderStop source stop →
      signature source c.startRow c.endRow c.body = trim (textTo source c.startRow stop) ∧
      textTo source c.startRow stop <+: joinRows (source.drop c.startRow) := by
  obtain ⟨r, row, head, hstart, hrow, hhead, hstop, hsignature⟩ := Capture.exists_headerStop_iff hin
  refine ⟨⟨⟨r, byteLength head⟩, (hstop _).2 rfl, fun stop h => (hstop stop).1 h⟩, ?_⟩
  intro stop h
  obtain rfl := (hstop stop).1 h
  rw [textTo_eq hrow hhead]
  exact ⟨hsignature, textTo_eq hrow hhead ▸ textTo_prefix hstart hrow hhead⟩

end

/-- A header that is closed by an arrow stops in front of the first arrow on the row, and one that
    no row closes does not stop inside a character. -/
theorem signature_eq_trim_textTo_arrow :
    let source := ["fn maß(".toList, "  g: A -> B) ->".toList, "  g(a)".toList]
    let c : Capture := ⟨0, 2, .signature, none⟩
    let source' := ["fn f(x: T)".toList, "où T: C, g(x)".toList]
    let d : Capture := ⟨0, 1, .signature, some ⟨1, 2⟩⟩
    (c.isIn source = true ∧ c.HeaderStop source ⟨1, 7⟩ ∧
      signature source 0 2 none = trim (textTo source 0 ⟨1, 7⟩) ∧
      trim (textTo source 0 ⟨1, 7⟩) = "fn maß(\n  g: A".toList) ∧
    (d.isIn source' = true ∧ d.HeaderStop source' ⟨1, 14⟩ ∧
      signature source' 0 1 (some ⟨1, 2⟩) = trim (textTo source' 0 ⟨1, 14⟩) ∧
      trim (textTo source' 0 ⟨1, 14⟩) = joinRows source') := by
  intro source c source' d
  have hin : c.isIn source = true := by decide
  have hin' : d.isIn source' = true := by decide
  have hclosed : c.IsClosedAt source 1 "  g: A -> B) ->".toList .arrow := by
    refine ⟨Nat.zero_le 1, by decide, rfl, by decide, by decide, fun i _ hi => ?_⟩
    obtain rfl : i = 0 := by omega
    decide
  have harrow : "  g: A ".toList ++ Terminator.arrow.mark <+: "  g: A -> B) ->".toList := by decide
  have hstop : c.HeaderStop source ⟨1, 7⟩ :=
    .mark hclosed rfl (standsFirst_upTo harrow)
  have hopen : d.IsOpen source' := by
    intro i _ hi
    have hlimit : d.searchLimit source' = 1 := by decide
    obtain rfl | rfl : i = 0 ∨ i = 1 := by omega
    · decide
    · decide
  have hstop' : d.HeaderStop source' ⟨1, 14⟩ := by
    refine .limit hopen rfl fun column hcolumn => ?_
    obtain rfl : 2 = column := congrArg Position.column (Option.some.inj hcolumn)
    exact bytePrefix?_eq_none_iff.1 (by decide)
  exact ⟨⟨hin, hstop, ((signature_eq_trim_textTo hin).2 _ hstop).1, by decide⟩,
    ⟨hin', hstop', ((signature_eq_trim_textTo hin').2 _ hstop').1, by decide⟩⟩

end Synopsis
