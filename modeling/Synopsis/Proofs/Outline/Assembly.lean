import Mathlib.Data.List.Induction
import Mathlib.Data.List.Nodup
import Synopsis.Outline.Assembler
import Synopsis.Proofs.Text.Trim

namespace Synopsis

/-!
# What an outline in the making holds

An assembler keeps two things, the chunks and the texts among them that stand only once.  Both
are told by the pushes that led to it.

* `Capture.isTrimmed_text` — what a capture contributes has no white space at its ends;
* `Assembler.isKept_judge_iff`, `Assembler.chunks_push`, `Assembler.has_push_iff` — when a push
  is kept, and what it then adds;
* `Assembler.has_run_iff` — the texts that are known after a run are those of the structural
  captures in it;
* `Assembler.AccountsFor` — the invariant: the chunks and the known texts are those of the
  pushes that were kept;
* `Assembler.AccountsFor.push`, `Assembler.accountsFor_run` — one push preserves it, so every
  run does;
* `reachable_accountsFor` — the invariant in every state that can be reached, and the part of
  comments in it.
-/

/-! ### Texts -/

/-- What a capture contributes is trimmed, whatever its kind. -/
theorem Capture.isTrimmed_text (c : Capture) (source : List Text) : IsTrimmed (c.text source) := by
  rw [Capture.text]
  split
  case h_7 => exact isTrimmed_nil
  all_goals exact isTrimmed_trim _

/-! ### One push -/

/-- A push is kept exactly if the capture lies in the source and contributes text, which for a
    structural capture must be new. -/
theorem Assembler.isKept_judge_iff {a : Assembler} {source : List Text} {c : Capture} :
    (a.judge source c).isKept = true ↔
      c.isIn source = true ∧ c.text source ≠ [] ∧
        (c.kind.isStructural = true → a.keys.has (c.text source) = false) := by
  rcases a.push_cases source c with
    ⟨hc, hj, -⟩ | ⟨t, hc, hs, hk, hj, -⟩ | ⟨t, hc, hs, hk, hj, -⟩ | ⟨t, hc, hs, hj, -⟩
  · -- Without a chunk, the capture misses the source or has no text.
    rw [hj]
    constructor
    · intro h
      cases h
    · rintro ⟨hin, hne, -⟩
      rw [Capture.chunk?_eq_some_iff.2 ⟨hin, rfl, hne⟩] at hc
      cases hc
  all_goals
    obtain ⟨hin, rfl, hne⟩ := Capture.chunk?_eq_some_iff.1 hc
    simp [hj, Verdict.isKept, hin, hne, hs]
  · exact hk
  · exact hk

/-- A push that is kept appends the text of its capture; any other changes no chunk. -/
theorem Assembler.chunks_push (a : Assembler) (source : List Text) (c : Capture) :
    (a.push source c).chunks
      = a.chunks ++ if (a.judge source c).isKept then [c.text source] else [] := by
  rcases a.push_cases source c with
    ⟨-, hj, h⟩ | ⟨t, -, -, -, hj, h⟩ | ⟨t, hc, -, -, hj, h⟩ | ⟨t, hc, -, hj, h⟩
  · simp [hj, h, Verdict.isKept]
  · simp [hj, h, Verdict.isKept]
  · simp [hj, h, Verdict.isKept, (Capture.chunk?_eq_some_iff.1 hc).2.1]
  · simp [hj, h, Verdict.isKept, (Capture.chunk?_eq_some_iff.1 hc).2.1]

/-- A push makes known the text of its capture if it is kept and structural, and nothing else. -/
theorem Assembler.has_push_iff {a : Assembler} {source : List Text} {c : Capture} {t : Text} :
    (a.push source c).keys.has t = true ↔
      a.keys.has t = true ∨
        (a.judge source c).isKept = true ∧ c.kind.isStructural = true ∧ c.text source = t := by
  rcases a.push_cases source c with
    ⟨-, hj, h⟩ | ⟨u, -, -, -, hj, h⟩ | ⟨u, hc, hs, -, hj, h⟩ | ⟨u, -, hs, -, h⟩
  · simp [hj, h, Verdict.isKept]
  · simp [hj, h, Verdict.isKept]
  · rw [h, Keys.has_insert, hj, (Capture.chunk?_eq_some_iff.1 hc).2.1]
    simp only [Verdict.isKept, hs, true_and, or_comm, eq_comm]
  · simp [h, hs]

/-- The verdict on a comment depends on nothing that was pushed before. -/
theorem Assembler.judge_of_comment {c : Capture} (hc : c.kind = .comment) (a b : Assembler)
    (source : List Text) : a.judge source c = b.judge source c := by
  have hs : c.kind.isStructural = false := by rw [hc]; rfl
  cases h : c.chunk? source <;> simp [judge, h, hs]

/-- A comment is not remembered. -/
theorem Assembler.keys_push_of_comment {c : Capture} (hc : c.kind = .comment) (a : Assembler)
    (source : List Text) : (a.push source c).keys = a.keys := by
  have hs : c.kind.isStructural = false := by rw [hc]; rfl
  cases h : c.chunk? source <;> simp [push, settle, judge, h, hs]

/-! ### Known texts -/

/-- The texts that are known after a run are the chunks of the structural captures in it, be
    they kept or repeated. -/
theorem Assembler.has_run_iff {source : List Text} {cs : List Capture} {t : Text} :
    (Assembler.empty.run source cs).keys.has t = true ↔
      ∃ c ∈ cs, c.kind.isStructural = true ∧ c.chunk? source = some t := by
  induction cs using List.reverseRecOn with
  | nil => simp [empty]
  | append_singleton cs c ih =>
    -- Only the chunk of the last capture can be new.
    have hlast : (∃ d ∈ cs ++ [c], d.kind.isStructural = true ∧ d.chunk? source = some t) ↔
        (empty.run source cs).keys.has t = true ∨
          c.kind.isStructural = true ∧ c.chunk? source = some t := by
      simp only [ih, List.mem_append, List.mem_singleton, or_and_right, exists_or, exists_eq_left]
    rw [hlast, run_concat, has_push_iff]
    constructor
    · rintro (hold | ⟨hk, hs, rfl⟩)
      · exact Or.inl hold
      · obtain ⟨hin, hne, -⟩ := isKept_judge_iff.1 hk
        exact Or.inr ⟨hs, Capture.chunk?_eq_some_iff.2 ⟨hin, rfl, hne⟩⟩
    · rintro (hold | ⟨hs, hc⟩)
      · exact Or.inl hold
      · -- A structural chunk that is not kept is one that was known before.
        obtain ⟨hin, rfl, hne⟩ := Capture.chunk?_eq_some_iff.1 hc
        by_cases hknown : (empty.run source cs).keys.has (c.text source) = true
        · exact Or.inl hknown
        · rw [Bool.not_eq_true] at hknown
          exact Or.inr ⟨isKept_judge_iff.2 ⟨hin, hne, fun _ => hknown⟩, hs, rfl⟩

/-! ### The invariant -/

/-- The texts of the structural pushes that were kept, in order. -/
def structuralTexts (source : List Text) (steps : List Step) : List Text :=
  (steps.filter fun s => s.verdict.isKept && s.capture.kind.isStructural).map
    (·.capture.text source)

theorem structuralTexts_concat (source : List Text) (steps : List Step) (s : Step) :
    structuralTexts source (steps ++ [s]) = structuralTexts source steps ++
      if s.verdict.isKept && s.capture.kind.isStructural then [s.capture.text source] else [] := by
  simp only [structuralTexts, List.filter_append, List.filter_cons, List.filter_nil,
    List.map_append]
  split <;> rfl

/-- What an assembler holds, told by the pushes that led to it. -/
structure Assembler.AccountsFor (a : Assembler) (source : List Text) (steps : List Step) :
    Prop where
  /-- There is one chunk for each push that was kept, in the order of the pushes. -/
  chunks : a.chunks = (steps.filter (·.verdict.isKept)).map (·.capture.text source)
  /-- No chunk is empty or has white space at an end. -/
  trimmed : ∀ chunk ∈ a.chunks, chunk ≠ [] ∧ IsTrimmed chunk
  /-- The known texts are those of the structural pushes that were kept. -/
  known : ∀ t, t ∈ a.keys.texts ↔ t ∈ structuralTexts source steps
  /-- These texts differ from each other, also where the kinds do. -/
  distinct : (structuralTexts source steps).Nodup

theorem Assembler.accountsFor_empty (source : List Text) :
    Assembler.empty.AccountsFor source [] :=
  ⟨rfl, by simp [empty], by simp [empty, Keys.empty, structuralTexts], List.nodup_nil⟩

/-- **One push preserves the invariant.** -/
theorem Assembler.AccountsFor.push {a : Assembler} {source : List Text} {steps : List Step}
    (ha : a.AccountsFor source steps) (c : Capture) :
    (a.push source c).AccountsFor source
      (steps ++ [⟨c, a.judge source c, a.push source c⟩]) := by
  constructor
  · rw [chunks_push, ha.chunks, List.filter_append, List.map_append]
    by_cases hk : (a.judge source c).isKept = true <;> simp [hk]
  · -- A chunk is an old one or the text of the capture, which is trimmed.
    intro chunk hchunk
    rw [chunks_push, List.mem_append] at hchunk
    rcases hchunk with hold | hnew
    · exact ha.trimmed chunk hold
    · split at hnew
      · rename_i hk
        rw [List.mem_singleton.1 hnew]
        exact ⟨(isKept_judge_iff.1 hk).2.1, c.isTrimmed_text source⟩
      · cases hnew
  · intro t
    rw [← Keys.has_iff, has_push_iff, Keys.has_iff, ha.known, structuralTexts_concat,
      List.mem_append]
    by_cases hk : (a.judge source c).isKept = true <;>
      by_cases hs : c.kind.isStructural = true <;> simp [hk, hs, eq_comm]
  · rw [structuralTexts_concat]
    split
    · -- A structural text is kept only if it is not known, so it differs from those before.
      rename_i hks
      obtain ⟨hk, hs⟩ := Bool.and_eq_true_iff.1 hks
      have hfresh : c.text source ∉ structuralTexts source steps := by
        rw [← ha.known, ← Keys.has_iff, (isKept_judge_iff.1 hk).2.2 hs]
        exact Bool.false_ne_true
      rw [← List.concat_eq_append]
      exact (List.nodup_concat _ _).2 ⟨hfresh, ha.distinct⟩
    · rw [List.append_nil]
      exact ha.distinct

/-- Every run preserves the invariant. -/
theorem Assembler.accountsFor_run (source : List Text) (cs : List Capture) :
    (Assembler.empty.run source cs).AccountsFor source (Assembler.empty.trace source cs) := by
  induction cs using List.reverseRecOn with
  | nil => exact accountsFor_empty source
  | append_singleton cs c ih =>
    -- The last push leads from the state that the invariant holds of.
    rw [run_concat, trace_concat]
    exact ih.push c

/-- An outline in the making is empty exactly as long as nothing has been kept. -/
theorem Assembler.outline_run_eq_nil_iff {source : List Text} {cs : List Capture} :
    (Assembler.empty.run source cs).outline = [] ↔ (Assembler.empty.run source cs).chunks = [] := by
  have htrimmed := (accountsFor_run source cs).trimmed
  rw [outline]
  cases h : (Assembler.empty.run source cs).chunks with
  | nil => simp
  | cons chunk rest =>
    -- The first chunk is not empty, and it stands in the outline.
    rw [h] at htrimmed
    have hne : chunk ≠ [] := (htrimmed chunk List.mem_cons_self).1
    cases rest with
    | nil => simpa using hne
    | cons next rest => simp [List.intercalate_cons_cons, hne]

/-- The chunks of an outline, in the order of the outline. -/
def outlineChunks (source : List Text) (cs : List Capture) : List Text :=
  (Assembler.empty.run source (byStartRow cs)).chunks

theorem buildOutline_value (source : List Text) (cs : List Capture) :
    (buildOutline source cs).value = chunkSeparator.intercalate (outlineChunks source cs) := rfl

/-- **The state of an assembler is told by its pushes.**  Whatever was pushed, in whatever
    order: the pushes are the captures, one after the other; the chunks and the known texts are
    those of the pushes that were kept; and a comment is neither remembered nor compared with
    what is known. -/
theorem reachable_accountsFor (source : List Text) (cs : List Capture) :
    (Assembler.empty.trace source cs).map (·.capture) = cs ∧
    (Assembler.empty.run source cs).AccountsFor source (Assembler.empty.trace source cs) ∧
    ∀ (startRow endRow : Nat) (body : Option Position) (keys : Keys),
      ((Assembler.empty.run source cs).push source ⟨startRow, endRow, .comment, body⟩).keys
        = (Assembler.empty.run source cs).keys ∧
      (Assembler.mk keys (Assembler.empty.run source cs).chunks).judge source
          ⟨startRow, endRow, .comment, body⟩
        = (Assembler.empty.run source cs).judge source ⟨startRow, endRow, .comment, body⟩ := by
  refine ⟨Assembler.map_capture_trace _ source cs, Assembler.accountsFor_run source cs, ?_⟩
  intro startRow endRow body keys
  exact ⟨Assembler.keys_push_of_comment rfl _ source, Assembler.judge_of_comment rfl _ _ source⟩

end Synopsis
