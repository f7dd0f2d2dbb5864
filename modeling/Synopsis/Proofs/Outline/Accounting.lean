import Synopsis.Proofs.Outline.Acceptance

namespace Synopsis

/-!
# Every capture is accounted for

A capture is accepted, or it repeats one that was, which is recorded, or it is silently left out.
No capture is counted twice, and none is lost.

* `Capture.IsSilent`, `Capture.IsRepeated` — what is left out without and with a record;
* `judge_eq_skipped_iff`, `judge_run_eq_repeated_iff` — the verdicts on such captures;
* `repeats`, `log_run` — the captures that are repeated, and the records that are made of them;
* `length_accepted_add` — one push adds to one of the three numbers, so every run adds up;
* `outline_accounts_for_captures` — the chunks, the records and the silent captures of an outline.
-/

/-! ### Captures that are left out -/

/-- Whether the capture contributes nothing, wherever it stands: it starts below the source, it
    ends before it starts, it is irrelevant, or it has no text. -/
def Capture.IsSilent (c : Capture) (source : List Text) : Prop :=
  source.length ≤ c.startRow ∨ c.endRow < c.startRow ∨ c.kind = .irrelevant ∨ c.text source = []

instance (c : Capture) (source : List Text) : Decidable (c.IsSilent source) :=
  inferInstanceAs (Decidable (_ ∨ _ ∨ _ ∨ _))

/-- Whether the capture repeats an earlier one: it is structural, it would contribute text, and a
    structural capture with the same text was accepted before. -/
def Capture.IsRepeated (c : Capture) (source : List Text) (earlier : List Capture) : Prop :=
  ¬ c.IsSilent source ∧ c.kind.isStructural = true ∧
    ∃ d ∈ accepted source earlier, d.kind.isStructural = true ∧ d.text source = c.text source

instance (c : Capture) (source : List Text) (earlier : List Capture) :
    Decidable (c.IsRepeated source earlier) :=
  inferInstanceAs (Decidable (_ ∧ _ ∧ _))

theorem Capture.isSilent_iff {c : Capture} {source : List Text} :
    c.IsSilent source ↔ c.chunk? source = none := by
  have hirrelevant : c.kind = .irrelevant → c.text source = [] := fun hk => by rw [text, hk]
  rw [Option.eq_none_iff_forall_ne_some]
  simp only [ne_eq, chunk?_eq_some_iff, isIn_iff, not_and, IsSilent]
  constructor
  · rintro (h | h | h | h) t ⟨hstart, hend⟩ rfl
    · omega
    · omega
    · exact fun hne => hne (hirrelevant h)
    · exact fun hne => hne h
  · intro h
    by_contra hnot
    simp only [not_or, Nat.not_le, Nat.not_lt] at hnot
    exact h (c.text source) ⟨hnot.1, hnot.2.1⟩ rfl hnot.2.2.2

/-- A capture is skipped exactly if it is silent, whatever was pushed before. -/
theorem judge_eq_skipped_iff {a : Assembler} {source : List Text} {c : Capture} :
    a.judge source c = .skipped ↔ c.IsSilent source := by
  rw [Capture.isSilent_iff, Assembler.judge]
  cases c.chunk? source with
  | none => simp
  | some t =>
    simp only [reduceCtorEq, iff_false]
    split <;> simp

/-- The texts that are known after a run are those of the accepted structural captures. -/
theorem has_run_iff_accepted {source : List Text} {cs : List Capture} {t : Text} :
    (Assembler.empty.run source cs).keys.has t = true ↔
      ∃ d ∈ accepted source cs, d.kind.isStructural = true ∧ d.text source = t := by
  have hfirst := filter_structural_accepted source cs t
  rw [Assembler.has_run_iff]
  constructor
  · rintro ⟨c, hc, hs, ht⟩
    have hsome : (cs.find? fun c => c.kind.isStructural && c.chunk? source = some t).isSome :=
      List.find?_isSome.2 ⟨c, hc, by simp [hs, ht]⟩
    obtain ⟨d, hd⟩ := Option.isSome_iff_exists.1 hsome
    rw [hd, Option.toList_some] at hfirst
    have hmem : d ∈ (accepted source cs).filter fun c => c.kind.isStructural && c.text source = t :=
      hfirst ▸ List.mem_singleton_self d
    exact ⟨d, by simpa using hmem⟩
  · rintro ⟨d, hd, hs, ht⟩
    have hmem : d ∈ (accepted source cs).filter fun c => c.kind.isStructural && c.text source = t :=
      List.mem_filter.2 ⟨hd, by simp [hs, ht]⟩
    rw [hfirst, Option.mem_toList] at hmem
    exact ⟨d, List.mem_of_find?_eq_some hmem, by simpa using List.find?_some hmem⟩

/-- A push after a run is recorded exactly if the capture repeats one of the run. -/
theorem judge_run_eq_repeated_iff {source : List Text} {cs : List Capture} {c : Capture} :
    (Assembler.empty.run source cs).judge source c = .repeated ↔ c.IsRepeated source cs := by
  rw [Capture.IsRepeated, Capture.isSilent_iff, ← has_run_iff_accepted, Assembler.judge]
  cases hc : c.chunk? source with
  | none => simp
  | some t =>
    obtain ⟨-, rfl, -⟩ := Capture.chunk?_eq_some_iff.1 hc
    simp

/-! ### Runs -/

/-- The captures that repeat one before them, each with its place. -/
def repeats (source : List Text) (cs : List Capture) : List (Capture × Nat) :=
  cs.zipIdx.filter fun p => p.1.IsRepeated source (cs.take p.2)

theorem repeats_concat (source : List Text) (cs : List Capture) (c : Capture) :
    repeats source (cs ++ [c])
      = repeats source cs ++ if c.IsRepeated source cs then [(c, cs.length)] else [] := by
  have hconcat := filter_zipIdx_take_concat (fun d earlier => decide (d.IsRepeated source earlier))
    cs c
  simp only [decide_eq_true_eq] at hconcat
  exact hconcat

/-- **The records of a run** are made of the captures that are repeated. -/
theorem log_run (source : List Text) (cs : List Capture) :
    (Assembler.empty.trace source cs).flatMap (·.log)
      = (repeats source cs).map fun p => Record.repeated p.1.kind p.1.startRow := by
  induction cs using List.reverseRecOn with
  | nil => rfl
  | append_singleton cs c ih =>
    rw [Assembler.trace_concat, List.flatMap_append, ih, repeats_concat, List.map_append]
    congr 1
    rw [List.flatMap_singleton, Step.log, ← if_congr judge_run_eq_repeated_iff rfl rfl]
    cases (Assembler.empty.run source cs).judge source c <;> rfl

/-- A capture that is pushed after a run is accepted, repeated or silent, and only one of these. -/
theorem accepted_or_repeated_or_silent (source : List Text) (cs : List Capture) (c : Capture) :
    (if c.IsAccepted source cs then 1 else 0) + (if c.IsRepeated source cs then 1 else 0)
      + (if c.IsSilent source then 1 else 0) = 1 := by
  -- There is one verdict on it.
  rw [← if_congr isKept_judge_run_iff rfl rfl, ← if_congr judge_run_eq_repeated_iff rfl rfl,
    ← if_congr (judge_eq_skipped_iff (a := Assembler.empty.run source cs)) rfl rfl]
  cases (Assembler.empty.run source cs).judge source c <;> rfl

/-- **Every capture of a run is counted once.** -/
theorem length_accepted_add (source : List Text) (cs : List Capture) :
    (accepted source cs).length + (repeats source cs).length + cs.countP (·.IsSilent source)
      = cs.length := by
  induction cs using List.reverseRecOn with
  | nil => rfl
  | append_singleton cs c ih =>
    have hone := accepted_or_repeated_or_silent source cs c
    rw [accepted_concat, repeats_concat, List.countP_append, List.length_append,
      List.length_append, List.length_append, List.countP_singleton, List.length_singleton, ← ih,
      apply_ite List.length, apply_ite List.length]
    simp only [List.length_singleton, List.length_nil, decide_eq_true_eq]
    omega

/-! ### Outlines -/

/-- What is accepted stands at a place, and is accepted after the captures before that place. -/
theorem mem_accepted_iff {source : List Text} {cs : List Capture} {d : Capture} :
    d ∈ accepted source cs ↔ ∃ i, cs[i]? = some d ∧ d.IsAccepted source (cs.take i) := by
  simp only [accepted, List.mem_map, List.mem_filter, decide_eq_true_eq, Prod.exists,
    List.mem_zipIdx_iff_getElem?]
  constructor
  · rintro ⟨_, i, h, rfl⟩
    exact ⟨i, h⟩
  · rintro ⟨i, h⟩
    exact ⟨d, i, h, rfl⟩

/-- What a capture repeats stands at an earlier place. -/
theorem exists_accepted_of_mem_repeats {source : List Text} {cs : List Capture}
    {p : Capture × Nat} (h : p ∈ repeats source cs) :
    p.1.kind.isStructural = true ∧ ∃ i d, i < p.2 ∧ cs[i]? = some d ∧
      d.IsAccepted source (cs.take i) ∧ d.kind.isStructural = true ∧
      d.text source = p.1.text source := by
  obtain ⟨-, hs, d, hd, hds, htext⟩ := of_decide_eq_true (List.mem_filter.1 h).2
  obtain ⟨i, hi, haccepted⟩ := mem_accepted_iff.1 hd
  rw [List.getElem?_take] at hi
  split at hi
  · rename_i hlt
    rw [List.take_take, Nat.min_eq_left (Nat.le_of_lt hlt)] at haccepted
    exact ⟨hs, i, d, hlt, hi, haccepted, hds, htext⟩
  · cases hi

/-- **Every capture of an outline is accounted for.**  The chunks, the records and the captures
    that are silently left out are as many as the captures.  The records are made of repeated
    captures, in the order of the outline, each of the kind and the first row of its own; and what
    is repeated is structural, and was accepted at an earlier place with the same text, also as a
    structural capture. -/
theorem outline_accounts_for_captures (source : List Text) (cs : List Capture) :
    InStartOrder cs (byStartRow cs) ∧
    (buildOutline source cs).value = chunkSeparator.intercalate (outlineChunks source cs) ∧
    outlineChunks source cs = (accepted source (byStartRow cs)).map (·.text source) ∧
    (outlineChunks source cs).length + (buildOutline source cs).log.length
      + cs.countP (·.IsSilent source) = cs.length ∧
    (buildOutline source cs).log = (repeats source (byStartRow cs)).map
      (fun p => Record.repeated p.1.kind p.1.startRow) ∧
    (repeats source (byStartRow cs)).Sublist (byStartRow cs).zipIdx ∧
    ((repeats source (byStartRow cs)).map (·.1.startRow)).Pairwise (· ≤ ·) ∧
    ∀ p ∈ repeats source (byStartRow cs), p.1.kind.isStructural = true ∧
      ∃ i d, i < p.2 ∧ (byStartRow cs)[i]? = some d ∧
        d.IsAccepted source ((byStartRow cs).take i) ∧ d.kind.isStructural = true ∧
        d.text source = p.1.text source := by
  have hchunks : outlineChunks source cs = (accepted source (byStartRow cs)).map (·.text source) :=
    chunks_run source (byStartRow cs)
  have hlog : (buildOutline source cs).log
      = (repeats source (byStartRow cs)).map fun p => Record.repeated p.1.kind p.1.startRow :=
    log_run source (byStartRow cs)
  have hsublist : (repeats source (byStartRow cs)).Sublist (byStartRow cs).zipIdx :=
    List.filter_sublist
  refine ⟨inStartOrder_byStartRow cs, buildOutline_value source cs, hchunks, ?_, hlog, hsublist, ?_,
    fun p hp => exists_accepted_of_mem_repeats hp⟩
  · have hcount := length_accepted_add source (byStartRow cs)
    rw [hchunks, hlog, List.length_map, List.length_map, ← (byStartRow_perm cs).countP_eq, hcount]
    exact (byStartRow_perm cs).length_eq
  · have hrows := hsublist.map (·.1.startRow)
    have hall := congrArg (List.map Capture.startRow) (List.zipIdx_map_fst 0 (byStartRow cs))
    rw [List.map_map] at hall
    rw [show (byStartRow cs).zipIdx.map (·.1.startRow) = (byStartRow cs).map (·.startRow) from hall]
      at hrows
    exact (List.pairwise_map.2 (byStartRow_ascending cs)).sublist hrows

/-- A row as a comment, as an import and as a property: the property repeats the import, and it
    would not repeat the comment. -/
theorem outline_accounts_for_captures_property :
    let source := ["import os".toList, "  ".toList, "import os".toList]
    let cs : List Capture := [⟨0, 0, .comment, none⟩, ⟨0, 0, .importClause, none⟩,
      ⟨1, 1, .comment, none⟩, ⟨2, 2, .property, none⟩, ⟨4, 7, .importClause, none⟩]
    let property : Capture := ⟨2, 2, .property, none⟩
    byStartRow cs = cs ∧ cs.countP (·.IsSilent source) = 2 ∧ (property, 3) ∈ repeats source cs ∧
    property.kind.isStructural = true ∧
    ∃ i d, i < 3 ∧ cs[i]? = some d ∧ d.IsAccepted source (cs.take i) ∧
      d.kind.isStructural = true ∧ d.text source = property.text source := by
  intro source cs property
  have hsorted : byStartRow cs = cs := List.mergeSort_of_pairwise (by decide)
  have hsilent : cs.countP (·.IsSilent source) = 2 := by decide
  have hrepeats : (property, 3) ∈ repeats source cs := by decide
  have hmem : (property, 3) ∈ repeats source (byStartRow cs) := hsorted.symm ▸ hrepeats
  obtain ⟨-, -, -, -, -, -, -, hearlier⟩ := outline_accounts_for_captures source cs
  have hproperty := hearlier _ hmem
  rw [hsorted] at hproperty
  exact ⟨hsorted, hsilent, hrepeats, hproperty⟩

end Synopsis
