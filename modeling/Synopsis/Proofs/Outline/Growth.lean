import Synopsis.Proofs.Outline.Assembly

namespace Synopsis

/-!
# How an outline grows

An outline in the making can be taken at any time.  What is pushed later leaves it as it is and
only appends to it, and appends something whenever it is kept.

* `intercalate_append`, `intercalate_eq_nil_iff` — texts that are joined in two parts;
* `keptTexts`, `chunks_run_append` — the chunks that pushes add to those before them;
* `outline_run_append` — the outline of all pushes, by those before and after a cut;
* `outline_grows` — a partial outline is a prefix of the full one, and what is missing from it.
-/

/-! ### Joining in two parts -/

section

variable {α : Type} {sep : List α} {l m : List (List α)}

theorem intercalate_append (hl : l ≠ []) (hm : m ≠ []) :
    sep.intercalate (l ++ m) = sep.intercalate l ++ sep ++ sep.intercalate m := by
  induction l with
  | nil => exact absurd rfl hl
  | cons first rest ih =>
    by_cases hrest : rest = []
    · subst hrest
      show sep.intercalate (first :: m) = _
      rw [List.intercalate_cons_of_ne_nil hm, List.intercalate_singleton]
    · have hboth : rest ++ m ≠ [] := List.append_ne_nil_of_left_ne_nil hrest m
      rw [List.cons_append, List.intercalate_cons_of_ne_nil hboth,
        List.intercalate_cons_of_ne_nil hrest, ih hrest]
      simp only [List.append_assoc]

/-- Texts that are not empty leave nothing only if there are none. -/
theorem intercalate_eq_nil_iff (h : ∀ t ∈ l, t ≠ []) : sep.intercalate l = [] ↔ l = [] := by
  cases l with
  | nil => simp
  | cons first rest =>
    have hfirst : first ≠ [] := h first List.mem_cons_self
    by_cases hrest : rest = []
    · subst hrest
      simpa using hfirst
    · rw [List.intercalate_cons_of_ne_nil hrest]
      simp [hfirst]

end

/-! ### Chunks before and after a cut -/

/-- The texts of the pushes that were kept, in order. -/
def keptTexts (source : List Text) (steps : List Step) : List Text :=
  (steps.filter (·.verdict.isKept)).map (·.capture.text source)

theorem keptTexts_append (source : List Text) (steps later : List Step) :
    keptTexts source (steps ++ later) = keptTexts source steps ++ keptTexts source later := by
  rw [keptTexts, List.filter_append, List.map_append]
  rfl

theorem keptTexts_eq_nil_iff {source : List Text} {steps : List Step} :
    keptTexts source steps = [] ↔ ∀ s ∈ steps, s.verdict.isKept = false := by
  simp only [keptTexts, List.map_eq_nil_iff, List.filter_eq_nil_iff, Bool.not_eq_true]

section

variable (source : List Text) (cs ds : List Capture)

/-- The chunks of a run are the texts that were kept in it. -/
theorem chunks_run_eq_keptTexts :
    (Assembler.empty.run source cs).chunks
      = keptTexts source (Assembler.empty.trace source cs) :=
  (Assembler.accountsFor_run source cs).chunks

/-- Later pushes add the texts that are kept in them. -/
theorem chunks_run_append :
    (Assembler.empty.run source (cs ++ ds)).chunks
      = (Assembler.empty.run source cs).chunks
        ++ keptTexts source ((Assembler.empty.run source cs).trace source ds) := by
  rw [chunks_run_eq_keptTexts, chunks_run_eq_keptTexts, Assembler.trace_append, keptTexts_append]

/-- No text that is kept after a cut is empty. -/
theorem ne_nil_of_mem_keptTexts_later {t : Text}
    (h : t ∈ keptTexts source ((Assembler.empty.run source cs).trace source ds)) : t ≠ [] := by
  have hmem : t ∈ (Assembler.empty.run source (cs ++ ds)).chunks := by
    rw [chunks_run_append]
    exact List.mem_append_right _ h
  exact ((Assembler.accountsFor_run source (cs ++ ds)).trimmed t hmem).1

/-! ### Outlines before and after a cut -/

/-- **What later pushes append.**  It is the outline of the texts that are kept in them, behind a
    blank line if there is something on either side of it. -/
theorem outline_run_append :
    (Assembler.empty.run source (cs ++ ds)).outline
      = (Assembler.empty.run source cs).outline
        ++ ((if keptTexts source (Assembler.empty.trace source cs) = [] ∨
              keptTexts source ((Assembler.empty.run source cs).trace source ds) = []
            then [] else chunkSeparator)
          ++ chunkSeparator.intercalate
            (keptTexts source ((Assembler.empty.run source cs).trace source ds))) := by
  rw [Assembler.outline, Assembler.outline, chunks_run_append, ← chunks_run_eq_keptTexts]
  -- From here on it does not matter which texts were kept.
  generalize (Assembler.empty.run source cs).chunks = early
  generalize keptTexts source ((Assembler.empty.run source cs).trace source ds) = later
  by_cases hearly : early = []
  · simp [hearly]
  by_cases hlater : later = []
  · simp [hlater]
  · rw [if_neg (not_or.2 ⟨hearly, hlater⟩), intercalate_append hearly hlater, List.append_assoc]

/-- **A partial outline is a prefix of the full one.**  The outline after some pushes is a prefix of
    the outline after all of them, whatever their order.  It is the full one exactly if no later
    push is kept.  What it lacks is the outline of the chunks that are kept later, behind a blank
    line unless nothing is kept before the cut, or nothing after it. -/
theorem outline_grows :
    (Assembler.empty.run source cs).outline
      <+: (Assembler.empty.run source (cs ++ ds)).outline ∧
    ((Assembler.empty.run source cs).outline = (Assembler.empty.run source (cs ++ ds)).outline ↔
      ∀ s ∈ (Assembler.empty.run source cs).trace source ds, s.verdict.isKept = false) ∧
    (Assembler.empty.run source (cs ++ ds)).outline
      = (Assembler.empty.run source cs).outline
        ++ ((if (∀ s ∈ Assembler.empty.trace source cs, s.verdict.isKept = false) ∨
              ∀ s ∈ (Assembler.empty.run source cs).trace source ds, s.verdict.isKept = false
            then [] else chunkSeparator)
          ++ chunkSeparator.intercalate
            (keptTexts source ((Assembler.empty.run source cs).trace source ds))) := by
  have hwhole := outline_run_append source cs ds
  simp only [keptTexts_eq_nil_iff] at hwhole
  refine ⟨hwhole ▸ List.prefix_append _ _, ?_, hwhole⟩
  have hnone : chunkSeparator.intercalate
      (keptTexts source ((Assembler.empty.run source cs).trace source ds)) = [] ↔
      ∀ s ∈ (Assembler.empty.run source cs).trace source ds, s.verdict.isKept = false := by
    rw [intercalate_eq_nil_iff fun t => ne_nil_of_mem_keptTexts_later source cs ds,
      keptTexts_eq_nil_iff]
  rw [hwhole, List.self_eq_append_right, List.append_eq_nil_iff, hnone]
  -- If nothing is kept later, there is no blank line either.
  refine ⟨fun h => h.2, fun h => ⟨if_pos (Or.inr h), h⟩⟩

end

end Synopsis
