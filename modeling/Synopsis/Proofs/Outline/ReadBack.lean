import Synopsis.Proofs.Outline.Accounting
import Synopsis.Proofs.Outline.OpeningBrace
import Synopsis.Proofs.Text.Splitting

namespace Synopsis

/-!
# Reading chunks back from an outline

A blank line separates the chunks of an outline.  It stands nowhere else if no capture has an empty
row between its first and its last one, so the chunks are the pieces between the blank lines.

* `Capture.IsGapless` — no row between the first and the last one of a capture is empty;
* `Capture.IsGapless.feedsApart_rowsBefore` — no blank line stands where its rows are joined;
* `feedsApart_verbatim`, `feedsApart_signature`, `feedsApart_classHeader` — the texts of captures,
  by their kinds;
* `splitText_buildOutline` — the pieces of an outline are its chunks.
-/

/-! ### Gapless captures -/

theorem mem_of_mem_rowsBefore {source : List Text} {startRow r : Nat} {t : Text}
    (h : t ∈ rowsBefore source startRow r) : t ∈ source :=
  List.mem_of_mem_drop (List.mem_of_mem_take h)

/-- Whether no row between the first and the last one of the capture is empty. -/
def Capture.IsGapless (c : Capture) (source : List Text) : Prop :=
  ∀ row < c.endRow, c.startRow < row → source[row]? ≠ some []

instance (c : Capture) (source : List Text) : Decidable (c.IsGapless source) :=
  inferInstanceAs (Decidable (∀ row < c.endRow, c.startRow < row → source[row]? ≠ some []))

section

variable {source : List Text} {c : Capture}

/-- Where rows of a gapless capture are joined, of which the last one may be cut, no two line feeds
    stand next to each other. -/
theorem Capture.IsGapless.feedsApart_rowsBefore (hgapless : c.IsGapless source)
    (hsource : ∀ row ∈ source, '\n' ∉ row) {r : Nat} {row head : Text}
    (hrow : source[r]? = some row) (hhead : head <+: row) (hr : r ≤ c.endRow) :
    FeedsApart (trim (joinRows (rowsBefore source c.startRow r ++ [head]))) := by
  refine FeedsApart.infix (feedsApart_joinRows ?_ ?_) (trim_isInfix _)
  · intro t ht
    rcases List.mem_append.1 ht with ht | ht
    · exact hsource t (mem_of_mem_rowsBefore ht)
    · obtain rfl := List.mem_singleton.1 ht
      exact fun hmem => hsource row (List.mem_of_getElem? hrow) (hhead.subset hmem)
  · -- A row between two others is neither the first row of the capture nor the last one.
    intro i hi hlt
    rw [List.length_append, List.length_singleton] at hlt
    have hat : (rowsBefore source c.startRow r ++ [head])[i]?
        = (rowsBefore source c.startRow r)[i]? := List.getElem?_append_left (by omega)
    rw [hat, rowsBefore, List.getElem?_take, List.getElem?_drop]
    split
    · exact hgapless (c.startRow + i) (by omega) (by omega)
    · simp

/-! ### Texts of captures -/

theorem Capture.searchLimit_le (hin : c.isIn source = true) : c.searchLimit source ≤ c.endRow := by
  have hend := (isIn_iff.1 hin).2
  have hlast : c.lastIn source ≤ c.endRow := Nat.min_le_left _ _
  rw [searchLimit]
  cases c.body with
  | none => exact hlast
  | some b =>
    show max c.startRow (min b.row (c.lastIn source)) ≤ c.endRow
    omega

variable (hsource : ∀ row ∈ source, '\n' ∉ row) (hin : c.isIn source = true)
include hsource hin

theorem feedsApart_verbatim (hgapless : c.IsGapless source) :
    FeedsApart (verbatim source c.startRow c.endRow) := by
  have hrow := List.getElem?_eq_getElem (lastRow_lt (Capture.isIn_iff.1 hin).1 c.endRow)
  have hlast : lastRow source c.startRow c.endRow ≤ c.endRow := by
    rw [lastRow_eq_lastIn hin]
    exact Nat.min_le_left _ _
  rw [verbatim, rowsIn_eq_concat (le_lastRow source c.startRow c.endRow) hrow]
  exact hgapless.feedsApart_rowsBefore hsource hrow List.prefix_rfl hlast

theorem feedsApart_signature (hgapless : c.IsGapless source) :
    FeedsApart (signature source c.startRow c.endRow c.body) := by
  have hlimit := Capture.searchLimit_le hin
  rcases c.exists_isClosedAt_or_isOpen source with ⟨r, row, t, hclosed⟩ | hopen
  · -- The header ends on the row that closes it, which may be cut.
    have hhead := closingHead_prefix row t
    rw [signature_of_isClosedAt hin hclosed]
    exact hgapless.feedsApart_rowsBefore hsource hclosed.getElem hhead (hclosed.limit.trans hlimit)
  · -- The header ends on the last row that is looked at, which may be cut at the body.
    have hlt := Capture.searchLimit_lt hin
    have hhead := Capture.openHead_prefix c source source[c.searchLimit source]
    have hrow := List.getElem?_eq_getElem hlt
    rw [signature_of_isOpen hin hopen hrow]
    exact hgapless.feedsApart_rowsBefore hsource hrow hhead hlimit

/-- A class header has two rows at most, so there is none between two others. -/
theorem feedsApart_classHeader : FeedsApart (classHeader source c.startRow c.endRow) := by
  have hrow := List.getElem?_eq_getElem (Capture.isIn_iff.1 hin).1
  rw [classHeader, classRows_eq hrow]
  refine FeedsApart.infix (feedsApart_joinRows ?_ ?_) (trim_isInfix _)
  · intro t ht
    obtain ⟨row, hmem, rfl⟩ := List.mem_map.1 ht
    have hrowMem : row ∈ source := by
      rcases List.mem_cons.1 hmem with rfl | hnext
      · exact List.getElem_mem _
      · obtain ⟨-, hat, -⟩ := inheritanceRow?_eq_some_iff.1 (Option.mem_toList.1 hnext)
        exact List.mem_of_getElem? hat
    -- What a header keeps of a row is a part of the row.
    intro hfeed
    have hkept := (trim_isInfix _).subset hfeed
    have hcut := upTo_prefix ['\x7b'] row
    exact hsource row hrowMem (hcut.subset hkept)
  · intro i hi hlt
    have htwo : (inheritanceRow? source c.startRow c.endRow).toList.length ≤ 1 := by
      cases inheritanceRow? source c.startRow c.endRow <;> simp
    rw [List.length_map, List.length_cons] at hlt
    omega

/-- No two line feeds stand next to each other in what a gapless capture contributes. -/
theorem Capture.feedsApart_text (hgapless : c.IsGapless source) : FeedsApart (c.text source) := by
  rw [text]
  cases c.kind with
  | comment | typeDefinition | importClause | property =>
    exact feedsApart_verbatim hsource hin hgapless
  | classDefinition => exact feedsApart_classHeader hsource hin
  | signature => exact feedsApart_signature hsource hin hgapless
  | irrelevant => exact List.isChain_nil

end

/-! ### Outlines -/

/-- **The chunks of an outline can be read back.**  If the rows of the source hold no line feeds,
    if no capture that lies in the source has an empty row between its first and its last one, and
    if anything is accepted, then the pieces of the outline between blank lines are the texts of
    the accepted captures, in their order. -/
theorem splitText_buildOutline {source : List Text} {cs : List Capture}
    (hsource : ∀ row ∈ source, '\n' ∉ row)
    (haccepted : accepted source (byStartRow cs) ≠ [])
    (hgapless : ∀ c ∈ cs, c.isIn source = true → c.IsGapless source) :
    splitText chunkSeparator (buildOutline source cs).value
      = (accepted source (byStartRow cs)).map (·.text source) := by
  rw [buildOutline_value, outlineChunks, chunks_run]
  apply splitText_intercalate (List.cons_ne_nil _ _)
  · exact fun hnil => haccepted (List.map_eq_nil_iff.1 hnil)
  · intro chunk hchunk
    obtain ⟨c, hc, rfl⟩ := List.mem_map.1 hchunk
    obtain ⟨i, hi, hstart, hend, -⟩ := mem_accepted_iff.1 hc
    have hin : c.isIn source = true := Capture.isIn_iff.2 ⟨hstart, hend⟩
    have hmem : c ∈ cs := (byStartRow_perm cs).mem_iff.1 (List.mem_of_getElem? hi)
    exact standsFirst_chunkSeparator (c.feedsApart_text hsource hin (hgapless c hmem hin))
      (c.isTrimmed_text source)

-- An empty row inside a comment cannot be told from the end of the comment.
example : splitText chunkSeparator (verbatim ["/*".toList, [], "*/".toList] 0 2)
    = ["/*".toList, "*/".toList] := by cbv

/-- A comment that starts on an empty row and has a blank one inside, a signature that is cut at an
    arrow, and a class header of two rows are read back; an irrelevant capture adds nothing. -/
theorem splitText_buildOutline_comment :
    let source := ["".toList, "/* a".toList, " ".toList, "*/".toList, "fn f(".toList,
      "  x: T) ->".toList, "".toList, "  T \x7b".toList, "class A".toList,
      "  extends B \x7b".toList]
    let cs : List Capture := [⟨0, 3, .comment, none⟩, ⟨3, 5, .irrelevant, none⟩,
      ⟨4, 6, .signature, some ⟨7, 4⟩⟩, ⟨8, 9, .classDefinition, none⟩]
    (∀ row ∈ source, '\n' ∉ row) ∧ accepted source (byStartRow cs) ≠ [] ∧
    (∀ c ∈ cs, c.isIn source = true → c.IsGapless source) ∧
    splitText chunkSeparator (buildOutline source cs).value
      = ["/* a\n \n*/".toList, "fn f(\n  x: T)".toList, "class A\nextends B".toList] := by
  intro source cs
  have hsource : ∀ row ∈ source, '\n' ∉ row := by decide
  have hgapless : ∀ c ∈ cs, c.isIn source = true → c.IsGapless source := by decide
  have hsorted : byStartRow cs = cs := List.mergeSort_of_pairwise (by decide)
  have htexts : (accepted source (byStartRow cs)).map (·.text source)
      = ["/* a\n \n*/".toList, "fn f(\n  x: T)".toList, "class A\nextends B".toList] := by
    rw [hsorted]
    decide +kernel
  have haccepted : accepted source (byStartRow cs) ≠ [] := by
    intro hnil
    rw [hnil] at htexts
    cases htexts
  exact ⟨hsource, haccepted, hgapless,
    (splitText_buildOutline hsource haccepted hgapless).trans htexts⟩

end Synopsis
