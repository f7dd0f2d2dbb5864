import Synopsis.Outline.ClassHeader
import Synopsis.Proofs.Outline.HeaderText

namespace Synopsis

/-!
# Headers in front of an opening brace

A header is cut at the first opening brace of a row, be it the one that opens the body or one before
it, and each row of a class header is cut at its own.

* `count_trim_joinRows_concat` — what is not white space is counted row by row;
* `terminator?_of_trimEnd_eq`, `takeWhile_of_trimEnd_eq` — a row that ends in an opening brace;
* `signature_of_brace` — the header in front of a body in braces, and the brace it is cut at;
* `inheritanceRow?`, `classHeader_of_none`, `classHeader_of_some` — a class header of one row and
  one of two;
* `classHeader_of_brace` — what a class header shows of the rows below the first one.
-/

/-! ### Counting characters -/

/-- What is not white space stands in rows as often as in the first ones and in the last one. -/
theorem count_trim_joinRows_concat {c : Char} (hc : isBlank c = false) (rows : List Text)
    (row : Text) :
    (trim (joinRows (rows ++ [row]))).count c = (joinRows rows).count c + row.count c := by
  have hfeed : ['\n'].count c = 0 := by
    refine List.count_eq_zero.2 fun hmem => ?_
    rw [List.mem_singleton.1 hmem] at hc
    exact absurd hc (by decide)
  rw [count_trim hc]
  by_cases hrows : rows = []
  · subst hrows
    simp [joinRows]
  · rw [joinRows_concat hrows, List.count_append, List.count_append, hfeed, Nat.add_zero]

theorem brace_not_mem_takeWhile (row : Text) : '\x7b' ∉ row.takeWhile (· ≠ '\x7b') := by
  intro h
  simpa using List.mem_takeWhile_imp h

/-! ### Bodies in braces -/

section

variable {source : List Text} {startRow endRow r : Nat} {row head : Text}

/-- A row that ends in an opening brace holds what stands before the brace, and then the brace. -/
theorem exists_eq_append_brace (hbrace : trimEnd row = head ++ ['\x7b']) :
    ∃ after, row = head ++ '\x7b' :: after ∧ ∀ c ∈ after, isBlank c = true := by
  obtain ⟨after, hrow, hafter⟩ := exists_append_trimEnd row
  refine ⟨after, ?_, hafter⟩
  rw [hbrace, List.append_assoc, List.singleton_append] at hrow
  exact hrow

/-- If it holds a closing parenthesis too, the brace is its terminator. -/
theorem terminator?_of_trimEnd_eq (hbrace : trimEnd row = head ++ ['\x7b']) (hparen : ')' ∈ row) :
    terminator? row = some .brace := by
  obtain ⟨after, hrow, hafter⟩ := exists_eq_append_brace hbrace
  obtain ⟨front, hfront⟩ := exists_trim_concat (c := '\x7b') (by decide) head
  have htrim : trim row = front ++ ['\x7b'] := by
    have hblank := trim_append_blank (s := head ++ ['\x7b']) hafter
    rw [List.append_assoc, List.singleton_append, ← hrow] at hblank
    rw [hblank, hfront]
  refine terminator?_eq_some_iff.2 ⟨hparen, ?_⟩
  rw [htrim, endsWith, List.isSuffixOf_iff_suffix]
  exact List.suffix_append front _

/-- Unless a brace stands before it, it is the one at which the row is cut. -/
theorem takeWhile_of_trimEnd_eq (hbrace : trimEnd row = head ++ ['\x7b']) (hhead : '\x7b' ∉ head) :
    row.takeWhile (· ≠ '\x7b') = head := by
  obtain ⟨after, hrow, -⟩ := exists_eq_append_brace hbrace
  have hall : ∀ c ∈ head, decide (c ≠ '\x7b') = true := by
    intro c hc
    rw [decide_eq_true_eq]
    rintro rfl
    exact hhead hc
  rw [hrow, List.takeWhile_append_of_pos hall]
  simp

/-- **The brace at which a header is cut.**  The body opens with the brace at the end of a row, and
    no row above closes the header.  If the row holds a closing parenthesis, the header is cut at
    the first brace on it, and otherwise at the body.  So it is the text up to the body exactly if
    the row holds no closing parenthesis, or no brace before the one that opens the body. -/
theorem signature_of_brace (hstart : startRow ≤ r) (hend : r ≤ endRow)
    (hrow : source[r]? = some row) (hbrace : trimEnd row = head ++ ['\x7b'])
    (habove : (rowsBefore source startRow r).any closesHeader = false) :
    signature source startRow endRow (some ⟨r, byteLength head⟩)
      = trim (joinRows (rowsBefore source startRow r ++
          [if ')' ∈ row then row.takeWhile (· ≠ '\x7b') else head])) ∧
    (signature source startRow endRow (some ⟨r, byteLength head⟩)
        = trim (textTo source startRow ⟨r, byteLength head⟩) ↔
      ')' ∉ row ∨ '\x7b' ∉ head) := by
  have hhead : head <+: row := by
    obtain ⟨after, rfl, -⟩ := exists_eq_append_brace hbrace
    exact List.prefix_append head _
  obtain ⟨hopen, hclosed⟩ :=
    (signature_of_body hstart hend hrow (bytePrefix?_byteLength hhead)).2 habove
  rw [textTo_eq hrow hhead]
  by_cases hparen : ')' ∈ row
  · have hsignature := hclosed _ (terminator?_of_trimEnd_eq hbrace hparen)
    have hcut : closingHead row .brace = row.takeWhile (· ≠ '\x7b') := upTo_singleton _ row
    rw [trim_joinRows_keptRow, hcut] at hsignature
    rw [hsignature, if_pos hparen]
    refine ⟨rfl, fun h => Or.inr fun hmem => ?_, fun h => ?_⟩
    · -- The brace before the body stands in one text, and not in the other one.
      have hcount := congrArg (List.count '\x7b') h
      rw [count_trim_joinRows_concat (by decide), count_trim_joinRows_concat (by decide),
        List.count_eq_zero.2 (brace_not_mem_takeWhile row)] at hcount
      have hpos := List.count_pos_iff.2 hmem
      omega
    · rw [takeWhile_of_trimEnd_eq hbrace (h.resolve_left fun hnot => hnot hparen)]
  · have hnone : terminator? row = none := by
      refine Option.eq_none_iff_forall_ne_some.2 fun t ht => ?_
      exact hparen (terminator?_eq_some_iff.1 ht).1
    rw [hopen hnone, if_neg hparen]
    exact ⟨rfl, fun _ => Or.inl hparen, fun _ => rfl⟩

end

/-- Of two headers with a parameter in braces, the one whose parentheses are closed on the row of the
    body is cut in front of the parameter, and the other one in front of the body. -/
theorem signature_of_brace_parameter :
    let row := "function App(\x7b name \x7d) \x7b".toList
    let source := ["function App(props)".toList, ": \x7b x: T \x7d \x7b".toList]
    (trimEnd row = "function App(\x7b name \x7d) ".toList ++ ['\x7b'] ∧
      (rowsBefore [row] 0 0).any closesHeader = false ∧
      signature [row] 0 0 (some ⟨0, 23⟩) = "function App(".toList) ∧
    (trimEnd source[1] = ": \x7b x: T \x7d ".toList ++ ['\x7b'] ∧
      (rowsBefore source 0 1).any closesHeader = false ∧
      signature source 0 1 (some ⟨1, 11⟩) = trim (textTo source 0 ⟨1, 11⟩)) := by
  intro row source
  have hbrace : trimEnd row = "function App(\x7b name \x7d) ".toList ++ ['\x7b'] := by decide
  have hbrace' : trimEnd source[1] = ": \x7b x: T \x7d ".toList ++ ['\x7b'] := by decide
  have habove : (rowsBefore [row] 0 0).any closesHeader = false := rfl
  have habove' : (rowsBefore source 0 1).any closesHeader = false := by decide
  have hcut := (signature_of_brace (Nat.zero_le 0) (Nat.le_refl 0) rfl hbrace habove).1
  have hbody := (signature_of_brace (Nat.zero_le 1) (Nat.le_refl 1) rfl hbrace' habove').2
  exact ⟨⟨hbrace, habove, hcut.trans (by decide)⟩,
    ⟨hbrace', habove', hbody.2 (Or.inl (by decide))⟩⟩

/-- A parameter in braces is lost, although it is known where the body opens. -/
theorem signature_cut_at_parameter :
    let head := "function App(\x7b name \x7d) ".toList
    let source := [head ++ ['\x7b'], "  return name;".toList, "\x7d".toList]
    trimEnd source[0] = head ++ ['\x7b'] ∧ byteLength head = 23 ∧
    (rowsBefore source 0 0).any closesHeader = false ∧
    signature source 0 2 (some ⟨0, 23⟩) = "function App(".toList ∧
    signature source 0 2 (some ⟨0, 23⟩) ≠ trim (textTo source 0 ⟨0, 23⟩) := by
  decide

/-! ### Class headers -/

theorem beforeBrace_eq (row : Text) : beforeBrace row = trim (row.takeWhile (· ≠ '\x7b')) :=
  congrArg trim (upTo_singleton _ row)

/-- The row below the first one, if it belongs to the class header. -/
def inheritanceRow? (source : List Text) (startRow endRow : Nat) : Option Text :=
  if startRow < endRow then source[startRow + 1]?.filter inherits else none

theorem inheritanceRow?_eq_some_iff {source : List Text} {startRow endRow : Nat} {next : Text} :
    inheritanceRow? source startRow endRow = some next ↔
      startRow < endRow ∧ source[startRow + 1]? = some next ∧ inherits next = true := by
  rw [inheritanceRow?]
  split
  · rename_i hlt
    simp only [Option.filter_eq_some_iff, hlt, true_and]
  · rename_i hlt
    simp [hlt]

section

variable {source : List Text} {startRow : Nat} {row : Text}

theorem classRows_eq (hrow : source[startRow]? = some row) (endRow : Nat) :
    classRows source startRow endRow
      = row :: (inheritanceRow? source startRow endRow).toList := by
  rw [classRows, rowsIn_self, rowsIn_self, hrow, inheritanceRow?]
  split
  · simp only [Option.toList_some, Option.toList_filter, List.singleton_append]
  · rfl

/-- A class header of one row is what stands on it before the first brace. -/
theorem classHeader_of_none {endRow : Nat} (hrow : source[startRow]? = some row)
    (hnext : inheritanceRow? source startRow endRow = none) :
    classHeader source startRow endRow = beforeBrace row := by
  rw [classHeader, classRows_eq hrow, hnext]
  show trim (joinRows [beforeBrace row]) = beforeBrace row
  rw [beforeBrace, joinRows, List.intercalate_singleton, trim_trim]

/-- A class header of two rows is what stands on each of them before the first brace. -/
theorem classHeader_of_some {endRow : Nat} {next : Text} (hrow : source[startRow]? = some row)
    (hnext : inheritanceRow? source startRow endRow = some next) :
    classHeader source startRow endRow
      = trim (joinRows ([beforeBrace row] ++ [beforeBrace next])) := by
  rw [classHeader, classRows_eq hrow, hnext]
  rfl

theorem brace_not_mem_beforeBrace (row : Text) : '\x7b' ∉ beforeBrace row := by
  rw [beforeBrace_eq, mem_trim_iff (by decide)]
  exact brace_not_mem_takeWhile row

/-- No brace stands in a class header. -/
theorem brace_not_mem_classHeader (hrow : source[startRow]? = some row) (endRow : Nat) :
    '\x7b' ∉ classHeader source startRow endRow := by
  cases hnext : inheritanceRow? source startRow endRow with
  | none =>
    rw [classHeader_of_none hrow hnext]
    exact brace_not_mem_beforeBrace row
  | some next =>
    rw [classHeader_of_some hrow hnext, ← List.count_eq_zero,
      count_trim_joinRows_concat (by decide), joinRows, List.intercalate_singleton,
      List.count_eq_zero.2 (brace_not_mem_beforeBrace row),
      List.count_eq_zero.2 (brace_not_mem_beforeBrace next)]

/-- A class header of two rows is its first one exactly if nothing stands on the second one before
    the first brace. -/
theorem classHeader_of_some_iff {endRow : Nat} {next : Text} (hrow : source[startRow]? = some row)
    (hnext : inheritanceRow? source startRow endRow = some next) :
    classHeader source startRow endRow = beforeBrace row ↔ beforeBrace next = [] := by
  rw [classHeader_of_some hrow hnext]
  constructor
  · intro h
    -- The first character of the second row is not white space, so it would count.
    by_contra hne
    obtain ⟨c, rest, hc⟩ := List.exists_cons_of_ne_nil hne
    have hplain : isBlank c = false :=
      (isTrimmed_trim (upTo ['\x7b'] next)).head c (by rw [← beforeBrace, hc]; rfl)
    have hcount := congrArg (List.count c) h
    rw [count_trim_joinRows_concat hplain, joinRows, List.intercalate_singleton, hc,
      List.count_cons_self] at hcount
    omega
  · intro h
    rw [h, joinRows_concat (List.cons_ne_nil _ _), List.append_nil,
      trim_append_blank (by simp [isBlank_of_isWhitespace]), joinRows, List.intercalate_singleton,
      beforeBrace, trim_trim]

/-- **What a class header shows.**  It holds no opening brace.  The row below the first one is part
    of it if the class goes on there and the row holds one of the words that name what a class
    inherits from, whether or not the body has been opened above.  So the header is what stands on
    the first row before the first brace, exactly if there is no such row with anything before its
    own first brace. -/
theorem classHeader_of_brace (hrow : source[startRow]? = some row) (endRow : Nat) :
    '\x7b' ∉ classHeader source startRow endRow ∧
    (∀ next, startRow < endRow → source[startRow + 1]? = some next → inherits next = true →
      classHeader source startRow endRow
        = trim (joinRows ([trim (row.takeWhile (· ≠ '\x7b'))]
          ++ [trim (next.takeWhile (· ≠ '\x7b'))]))) ∧
    (classHeader source startRow endRow = trim (row.takeWhile (· ≠ '\x7b')) ↔
      ¬ ∃ next, startRow < endRow ∧ source[startRow + 1]? = some next ∧ inherits next = true ∧
        trim (next.takeWhile (· ≠ '\x7b')) ≠ []) := by
  refine ⟨brace_not_mem_classHeader hrow endRow, ?_, ?_⟩
  · intro next hlt hnext hinherits
    rw [classHeader_of_some hrow (inheritanceRow?_eq_some_iff.2 ⟨hlt, hnext, hinherits⟩),
      beforeBrace_eq, beforeBrace_eq]
  · simp only [← beforeBrace_eq]
    cases hnext : inheritanceRow? source startRow endRow with
    | none =>
      refine ⟨fun _ => ?_, fun _ => classHeader_of_none hrow hnext⟩
      rintro ⟨next, hlt, hat, hinherits, -⟩
      rw [inheritanceRow?_eq_some_iff.2 ⟨hlt, hat, hinherits⟩] at hnext
      cases hnext
    | some next =>
      rw [classHeader_of_some_iff hrow hnext]
      obtain ⟨hlt, hat, hinherits⟩ := inheritanceRow?_eq_some_iff.1 hnext
      constructor
      · rintro h ⟨other, -, hother, -, hne⟩
        rw [hat] at hother
        exact hne (Option.some.inj hother ▸ h)
      · intro h
        by_contra hne
        exact h ⟨next, hlt, hat, hinherits, hne⟩

end

/-- The first member of a class stands in its header if it has a bound. -/
theorem classHeader_of_brace_member :
    let source := ["class Cache \x7b".toList, "  get<K extends Key>(k: K) \x7b".toList]
    (source[0]? = some source[0] ∧ 0 < 1 ∧ source[1]? = some source[1] ∧
      inherits source[1] = true ∧
      classHeader source 0 1 = trim (joinRows (["class Cache".toList]
        ++ ["get<K extends Key>(k: K)".toList]))) ∧
    ((¬ ∃ next, 0 < 0 ∧ source[1]? = some next ∧ inherits next = true ∧
        trim (next.takeWhile (· ≠ '\x7b')) ≠ []) ∧
      classHeader source 0 0 = "class Cache".toList) := by
  intro source
  have hinherits : inherits source[1] = true := by decide +kernel
  have hnone : ¬ ∃ next, 0 < 0 ∧ source[1]? = some next ∧ inherits next = true ∧
      trim (next.takeWhile (· ≠ '\x7b')) ≠ [] := by
    rintro ⟨next, hlt, -⟩
    exact absurd hlt (Nat.lt_irrefl 0)
  have hrow : source[0]? = some source[0] := rfl
  have htwo := (classHeader_of_brace hrow 1).2.1 _ Nat.zero_lt_one rfl hinherits
  have hone := (classHeader_of_brace hrow 0).2.2.2 hnone
  exact ⟨⟨hrow, Nat.zero_lt_one, rfl, hinherits, htwo.trans (by decide)⟩,
    ⟨hnone, hone.trans (by decide)⟩⟩

/-- The body of a class is open when its first member is reached, and still the member is kept. -/
theorem classHeader_keeps_member :
    let row := "class Cache \x7b".toList
    let next := "  get<K extends Key>(k: K) \x7b return k; \x7d".toList
    let source := [row, next, "\x7d".toList]
    '\x7b' ∈ row ∧ classHeader source 0 2 = "class Cache\nget<K extends Key>(k: K)".toList ∧
    classHeader source 0 2 ≠ trim (row.takeWhile (· ≠ '\x7b')) := by
  decide +kernel

end Synopsis
