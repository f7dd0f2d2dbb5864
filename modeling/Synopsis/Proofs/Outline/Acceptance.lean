import Synopsis.Proofs.Outline.Assembly
import Synopsis.Proofs.Outline.StartOrder

namespace Synopsis

/-!
# Which captures an outline shows

The outline of a source is told without the state of an assembler: whether a capture is accepted
depends on the capture and on those before it in the order of the outline.

* `Capture.IsAccepted` — whether a capture is accepted after others;
* `accepted` — the accepted ones of a list of captures;
* `isKept_judge_run_iff`, `chunks_run` — a run keeps exactly these;
* `filter_comment_accepted`, `filter_structural_accepted` — all comments are accepted, and of
  equal structural texts the first one;
* `buildOutline_eq_accepted` — an outline is made of the texts of the accepted captures.
-/

/-- Whether a capture contributes a chunk after the earlier ones: it lies in the source, it
    contributes text, and if it is structural, no structural capture before it that lies in the
    source has the same text. -/
def Capture.IsAccepted (c : Capture) (source : List Text) (earlier : List Capture) : Prop :=
  c.startRow < source.length ∧ c.startRow ≤ c.endRow ∧ c.kind ≠ .irrelevant ∧
    c.text source ≠ [] ∧
    (c.kind.isStructural = true → ∀ d ∈ earlier, d.isIn source = true →
      d.kind.isStructural = true → d.text source ≠ c.text source)

instance (c : Capture) (source : List Text) (earlier : List Capture) :
    Decidable (c.IsAccepted source earlier) :=
  inferInstanceAs (Decidable (_ ∧ _ ∧ _ ∧ _ ∧ _))

/-- The captures that are accepted, each after those before it. -/
def accepted (source : List Text) (cs : List Capture) : List Capture :=
  (cs.zipIdx.filter fun p => p.1.IsAccepted source (cs.take p.2)).map (·.1)

/-- What comes later has no influence on a choice that each element makes by those before it. -/
theorem filter_zipIdx_take_concat {α : Type} (p : α → List α → Bool) (l : List α) (a : α) :
    ((l ++ [a]).zipIdx.filter fun q => p q.1 ((l ++ [a]).take q.2))
      = (l.zipIdx.filter fun q => p q.1 (l.take q.2)) ++ if p a l then [(a, l.length)] else [] := by
  have hbefore : (l.zipIdx.filter fun q => p q.1 ((l ++ [a]).take q.2))
      = l.zipIdx.filter fun q => p q.1 (l.take q.2) := by
    apply List.filter_congr
    intro q hq
    have hlt : q.2 < l.length := by simpa using (List.mem_zipIdx hq).2.1
    rw [List.take_append_of_le_length (Nat.le_of_lt hlt)]
  rw [List.zipIdx_append, List.filter_append, hbefore]
  by_cases h : p a l = true <;> simp [h]

/-- What comes later has no influence on what is accepted. -/
theorem accepted_concat (source : List Text) (cs : List Capture) (c : Capture) :
    accepted source (cs ++ [c])
      = accepted source cs ++ if c.IsAccepted source cs then [c] else [] := by
  have hconcat := filter_zipIdx_take_concat (fun d earlier => decide (d.IsAccepted source earlier))
    cs c
  rw [accepted, hconcat, List.map_append]
  by_cases h : c.IsAccepted source cs <;> simp [accepted, h]

theorem kind_ne_irrelevant_of_mem_accepted {source : List Text} {cs : List Capture} {c : Capture}
    (h : c ∈ accepted source cs) : c.kind ≠ .irrelevant := by
  simp only [accepted, List.mem_map, List.mem_filter, decide_eq_true_eq] at h
  obtain ⟨p, ⟨-, haccepted⟩, rfl⟩ := h
  exact haccepted.2.2.1

/-- A capture is accepted exactly if it has a chunk that is no chunk of an earlier structural
    capture, should it be structural itself. -/
theorem Capture.isAccepted_iff {c : Capture} {source : List Text} {earlier : List Capture} :
    c.IsAccepted source earlier ↔
      c.chunk? source = some (c.text source) ∧
        (c.kind.isStructural = true → ∀ d ∈ earlier, d.kind.isStructural = true →
          ¬ d.chunk? source = some (c.text source)) := by
  simp only [IsAccepted, chunk?_eq_some_iff, isIn_iff, true_and]
  constructor
  · rintro ⟨hstart, hend, -, hne, hfirst⟩
    exact ⟨⟨⟨hstart, hend⟩, hne⟩, fun hs d hd hds h => hfirst hs d hd h.1 hds h.2.1⟩
  · rintro ⟨⟨⟨hstart, hend⟩, hne⟩, hfirst⟩
    refine ⟨hstart, hend, ?_, hne, fun hs d hd hin hds ht => hfirst hs d hd hds ⟨hin, ht, hne⟩⟩
    -- An irrelevant capture has no text.
    intro hk
    exact hne (by rw [text, hk])

/-! ### Runs -/

/-- A push after a run is kept exactly if the capture is accepted after those of the run. -/
theorem isKept_judge_run_iff {source : List Text} {cs : List Capture} {c : Capture} :
    ((Assembler.empty.run source cs).judge source c).isKept = true ↔ c.IsAccepted source cs := by
  rw [Assembler.isKept_judge_iff, Capture.isAccepted_iff, Capture.chunk?_eq_some_iff]
  have hknown : ((Assembler.empty.run source cs).keys.has (c.text source) = false) ↔
      ∀ d ∈ cs, d.kind.isStructural = true → ¬ d.chunk? source = some (c.text source) := by
    rw [← Bool.not_eq_true, Assembler.has_run_iff]
    simp only [not_exists, not_and]
  rw [hknown]
  simp only [true_and, and_assoc]

/-- The chunks of a run are the texts of the accepted captures. -/
theorem chunks_run (source : List Text) (cs : List Capture) :
    (Assembler.empty.run source cs).chunks = (accepted source cs).map (·.text source) := by
  induction cs using List.reverseRecOn with
  | nil => rfl
  | append_singleton cs c ih =>
    -- The last capture is judged after all others, on both sides.
    rw [Assembler.run_concat, Assembler.chunks_push, ih, accepted_concat, List.map_append]
    simp only [isKept_judge_run_iff]
    split <;> rfl

/-! ### Comments and structural captures -/

/-- Every comment that lies in the source and contributes text is accepted, each time. -/
theorem filter_comment_accepted (source : List Text) (cs : List Capture) :
    (accepted source cs).filter (·.kind = .comment)
      = cs.filter fun c => c.kind = .comment && c.isIn source && c.text source ≠ [] := by
  induction cs using List.reverseRecOn with
  | nil => rfl
  | append_singleton cs c ih =>
    rw [accepted_concat, List.filter_append, List.filter_append, ih]
    congr 1
    by_cases hk : c.kind = .comment
    · -- A comment is not compared with what stands before it.
      have hs : c.kind.isStructural = false := by rw [hk]; rfl
      have haccepted : c.IsAccepted source cs ↔ c.isIn source = true ∧ c.text source ≠ [] := by
        rw [Capture.isAccepted_iff, Capture.chunk?_eq_some_iff, hs]
        simp
      by_cases h : c.IsAccepted source cs
      · simp [h, haccepted.1 h, hk]
      · simp only [h, if_false]
        rw [haccepted, not_and_or] at h
        simp only [List.filter_nil, List.filter_cons]
        rcases h with h | h <;> simp [h]
    · split <;> simp [hk]

/-- A structural capture with a given text is accepted exactly if it has that chunk and no
    structural capture before it does. -/
theorem Capture.isAccepted_structural_iff {c : Capture} {source : List Text} {cs : List Capture}
    {t : Text} :
    c.IsAccepted source cs ∧ c.kind.isStructural = true ∧ c.text source = t ↔
      (c.kind.isStructural = true ∧ c.chunk? source = some t) ∧
        cs.find? (fun d => d.kind.isStructural && d.chunk? source = some t) = none := by
  simp only [List.find?_eq_none, Bool.and_eq_true, decide_eq_true_eq, not_and]
  constructor
  · rintro ⟨h, hs, rfl⟩
    rw [isAccepted_iff] at h
    exact ⟨⟨hs, h.1⟩, h.2 hs⟩
  · rintro ⟨⟨hs, hc⟩, hfirst⟩
    obtain ⟨-, rfl, -⟩ := chunk?_eq_some_iff.1 hc
    exact ⟨isAccepted_iff.2 ⟨hc, fun _ => hfirst⟩, hs, rfl⟩

/-- Of the structural captures with one text, the first one is accepted, and no other. -/
theorem filter_structural_accepted (source : List Text) (cs : List Capture) (t : Text) :
    (accepted source cs).filter (fun c => c.kind.isStructural && c.text source = t)
      = (cs.find? fun c => c.kind.isStructural && c.chunk? source = some t).toList := by
  induction cs using List.reverseRecOn with
  | nil => rfl
  | append_singleton cs c ih =>
    rw [accepted_concat, List.filter_append, ih, List.find?_append]
    have hlast : (if c.IsAccepted source cs then [c] else []).filter
          (fun c => c.kind.isStructural && c.text source = t)
        = if c.IsAccepted source cs ∧ c.kind.isStructural = true ∧ c.text source = t
          then [c] else [] := by
      by_cases h : c.IsAccepted source cs <;> simp [h, List.filter_cons]
    rw [hlast, if_congr Capture.isAccepted_structural_iff rfl rfl]
    -- If a capture before the last one has the text, it stays the first one.
    cases hfind : cs.find? fun c => c.kind.isStructural && c.chunk? source = some t with
    | some d => simp
    | none =>
      by_cases h : c.kind.isStructural = true ∧ c.chunk? source = some t <;> simp [h]

-- The same row as an import, a property and a comment: the property repeats the import.
example : accepted ["import os".toList]
      [⟨0, 0, .importClause, none⟩, ⟨0, 0, .property, none⟩, ⟨0, 0, .comment, none⟩]
    = [⟨0, 0, .importClause, none⟩, ⟨0, 0, .comment, none⟩] := by decide

/-! ### Outlines -/

/-- **An outline is made of the accepted captures.**  They stand by ascending first rows, those
    of one row as they were given, a blank line between each two.  Among structural captures
    with the same text the first one is accepted, whatever its kind; a comment that lies in the
    source and contributes text is accepted each time; and the outline is empty exactly if
    nothing is accepted. -/
theorem buildOutline_eq_accepted (source : List Text) (cs : List Capture) :
    InStartOrder cs (byStartRow cs) ∧
    (buildOutline source cs).value = chunkSeparator.intercalate
      ((accepted source (byStartRow cs)).map (·.text source)) ∧
    (∀ t, (accepted source (byStartRow cs)).filter
        (fun c => c.kind.isStructural && c.text source = t)
      = ((byStartRow cs).find? fun c =>
          c.kind.isStructural && c.chunk? source = some t).toList) ∧
    (accepted source (byStartRow cs)).filter (·.kind = .comment)
      = (byStartRow cs).filter
          (fun c => c.kind = .comment && c.isIn source && c.text source ≠ []) ∧
    ((buildOutline source cs).value = [] ↔ accepted source (byStartRow cs) = []) := by
  have hvalue : (buildOutline source cs).value = chunkSeparator.intercalate
      ((accepted source (byStartRow cs)).map (·.text source)) := by
    rw [← chunks_run]
    rfl
  refine ⟨inStartOrder_byStartRow cs, hvalue, filter_structural_accepted source _,
    filter_comment_accepted source _, ?_⟩
  have hempty : (Assembler.empty.run source (byStartRow cs)).outline = [] ↔
      (Assembler.empty.run source (byStartRow cs)).chunks = [] :=
    Assembler.outline_run_eq_nil_iff
  rwa [chunks_run, List.map_eq_nil_iff] at hempty

end Synopsis
