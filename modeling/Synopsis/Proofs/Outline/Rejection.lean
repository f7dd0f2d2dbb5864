import Mathlib.Data.List.Permutation
import Synopsis.Proofs.Outline.StartOrder
import Synopsis.Proofs.Sorting

namespace Synopsis

/-!
# Rejected captures leave no trace

A push that contributes nothing leaves an outline in the making as it was, for whatever reason the
capture was rejected.  So rejected captures can be left out of a list, any of them, and nothing
else changes.

* `withoutPlaces` — a list without what stands at some of its places;
* `Assembler.push_of_rejected` — a rejected push changes nothing;
* `Assembler.placedTrace` — pushes of captures that come from places of some list;
* `Assembler.placedTrace_filter` — without rejected pushes, the other ones are the same;
* `byStartRow_withoutPlaces` — leaving out captures keeps the others in order;
* `rejected_leave_no_trace` — so a run and an outline do not tell that they were left out.
-/

/-- The list without what stands at the dropped places. -/
def withoutPlaces {α : Type} (dropped : Nat → Bool) (l : List α) : List α :=
  (l.zipIdx.filter fun p => !dropped p.2).map (·.1)

/-! ### Pushes -/

/-- **A rejected push changes nothing.** -/
theorem Assembler.push_of_rejected {a : Assembler} {source : List Text} {c : Capture}
    (h : (a.judge source c).isKept = false) : a.push source c = a := by
  rcases a.push_cases source c with
    ⟨-, -, hpush⟩ | ⟨t, -, -, -, -, hpush⟩ | ⟨t, -, -, -, hj, -⟩ | ⟨t, -, -, hj, -⟩
  · exact hpush
  · exact hpush
  · rw [hj] at h
    cases h
  · rw [hj] at h
    cases h

/-- The pushes of captures in order, each with the place from which the capture comes. -/
def Assembler.placedTrace (a : Assembler) (source : List Text) (ps : List (Capture × Nat)) :
    List (Step × Nat) :=
  (a.trace source (ps.map (·.1))).zip (ps.map (·.2))

theorem Assembler.placedTrace_cons (a : Assembler) (source : List Text) (p : Capture × Nat)
    (ps : List (Capture × Nat)) :
    a.placedTrace source (p :: ps)
      = (⟨p.1, a.judge source p.1, a.push source p.1⟩, p.2)
        :: (a.push source p.1).placedTrace source ps := rfl

theorem Assembler.length_trace (a : Assembler) (source : List Text) (cs : List Capture) :
    (a.trace source cs).length = cs.length := by
  rw [← List.length_map, a.map_capture_trace]

theorem Assembler.map_fst_placedTrace (a : Assembler) (source : List Text)
    (ps : List (Capture × Nat)) :
    (a.placedTrace source ps).map (·.1) = a.trace source (ps.map (·.1)) :=
  List.map_fst_zip (by simp [length_trace])

/-- Each push is that of the capture with the same place. -/
theorem Assembler.map_capture_placedTrace (a : Assembler) (source : List Text)
    (ps : List (Capture × Nat)) :
    (a.placedTrace source ps).map (fun p => (p.1.capture, p.2)) = ps := by
  induction ps generalizing a with
  | nil => rfl
  | cons p ps ih =>
    rw [placedTrace_cons, List.map_cons, ih]

/-- The places of a list itself number its pushes. -/
theorem Assembler.placedTrace_zipIdx (a : Assembler) (source : List Text) (cs : List Capture) :
    a.placedTrace source cs.zipIdx = (a.trace source cs).zipIdx := by
  rw [placedTrace, List.zipIdx_map_fst, List.zipIdx_map_snd, List.zipIdx_eq_zip_range',
    length_trace]

/-- **Without rejected pushes, the other ones are the same**, and they lead to the same end. -/
theorem Assembler.placedTrace_filter {a : Assembler} {source : List Text}
    {ps : List (Capture × Nat)} {dropped : Nat → Bool}
    (h : ∀ p ∈ a.placedTrace source ps, dropped p.2 = true → p.1.verdict.isKept = false) :
    a.placedTrace source (ps.filter (!dropped ·.2))
        = (a.placedTrace source ps).filter (!dropped ·.2) ∧
      a.run source ((ps.filter (!dropped ·.2)).map (·.1)) = a.run source (ps.map (·.1)) := by
  induction ps generalizing a with
  | nil => exact ⟨rfl, rfl⟩
  | cons p ps ih =>
    rw [placedTrace_cons] at h ⊢
    obtain ⟨htrace, hrun⟩ := ih fun q hq => h q (List.mem_cons_of_mem _ hq)
    cases hp : dropped p.2 with
    | true =>
      -- The push is left out, and the state in which it leaves the rest is the one it met.
      have hpush : a.push source p.1 = a := push_of_rejected (h _ List.mem_cons_self hp)
      rw [hpush] at htrace hrun ⊢
      rw [List.filter_cons_of_neg (by simp [hp]), List.filter_cons_of_neg (by simp [hp])]
      refine ⟨htrace, hrun.trans ?_⟩
      show a.run source (ps.map (·.1)) = (a.push source p.1).run source (ps.map (·.1))
      rw [hpush]
    | false =>
      rw [List.filter_cons_of_pos (by simp [hp]), List.filter_cons_of_pos (by simp [hp]),
        placedTrace_cons, htrace]
      exact ⟨rfl, hrun⟩

/-! ### Outlines -/

/-- The captures of a list with their places in it, in the order of the outline. -/
def placedByStartRow (cs : List Capture) : List (Capture × Nat) :=
  cs.zipIdx.mergeSort fun p q => p.1.startRow ≤ q.1.startRow

/-- Captures keep their order when they are told apart by their places. -/
theorem map_fst_mergeSort (ps : List (Capture × Nat)) :
    (ps.mergeSort fun p q => p.1.startRow ≤ q.1.startRow).map (·.1) = byStartRow (ps.map (·.1)) :=
  List.map_mergeSort fun _ _ _ _ => rfl

/-- **Leaving out captures keeps the others in order.** -/
theorem byStartRow_withoutPlaces (dropped : Nat → Bool) (cs : List Capture) :
    byStartRow (withoutPlaces dropped cs)
      = ((placedByStartRow cs).filter (!dropped ·.2)).map (·.1) := by
  rw [withoutPlaces, ← map_fst_mergeSort, placedByStartRow, ← mergeSort_filter]
  · exact fun p q r => startRow_le_trans p.1 q.1 r.1
  · exact fun p q => startRow_le_total p.1 q.1

/-- The pushes that make the outline of a list of captures, each with the place of its capture in
    the list. -/
def outlinePushes (source : List Text) (cs : List Capture) : List (Step × Nat) :=
  Assembler.empty.placedTrace source (placedByStartRow cs)

/-- They are the pushes of the outline. -/
theorem map_fst_outlinePushes (source : List Text) (cs : List Capture) :
    (outlinePushes source cs).map (·.1) = Assembler.empty.trace source (byStartRow cs) := by
  rw [outlinePushes, Assembler.map_fst_placedTrace, placedByStartRow, map_fst_mergeSort,
    List.zipIdx_map_fst]

/-- The capture of each push stands at its place. -/
theorem getElem?_of_mem_outlinePushes {source : List Text} {cs : List Capture} {p : Step × Nat}
    (h : p ∈ outlinePushes source cs) : cs[p.2]? = some p.1.capture := by
  have hmem : (p.1.capture, p.2) ∈ placedByStartRow cs := by
    rw [← Assembler.empty.map_capture_placedTrace source (placedByStartRow cs)]
    exact List.mem_map_of_mem h
  exact List.mem_zipIdx_iff_getElem?.1 (List.mem_mergeSort.1 hmem)

/-- Without rejected captures an outline is the same, and the records of the others are. -/
theorem buildOutline_withoutPlaces {source : List Text} {cs : List Capture}
    {dropped : Nat → Bool}
    (h : ∀ p ∈ outlinePushes source cs, dropped p.2 = true → p.1.verdict.isKept = false) :
    buildOutline source (withoutPlaces dropped cs)
      = ⟨(buildOutline source cs).value,
        ((outlinePushes source cs).filter (!dropped ·.2)).flatMap (·.1.log)⟩ := by
  obtain ⟨htrace, hrun⟩ := Assembler.placedTrace_filter h
  have hall : (placedByStartRow cs).map (·.1) = byStartRow cs := by
    rw [placedByStartRow, map_fst_mergeSort, List.zipIdx_map_fst]
  have hlog : Assembler.empty.trace source (((placedByStartRow cs).filter (!dropped ·.2)).map (·.1))
      = ((outlinePushes source cs).filter (!dropped ·.2)).map (·.1) := by
    rw [← Assembler.map_fst_placedTrace, htrace, outlinePushes]
  rw [hall] at hrun
  simp only [buildOutline, byStartRow_withoutPlaces, hrun, hlog, List.flatMap_map]

/-- **Rejected captures leave no trace.**  Whichever rejected captures are left out of a run, the
    other pushes have the same verdicts, make the same records and lead through the same states.
    Whichever rejected captures are left out of the captures of an outline, the outline is the
    same, and so are the records of the other captures. -/
theorem rejected_leave_no_trace (source : List Text) (cs : List Capture) (dropped : Nat → Bool) :
    (∀ a : Assembler,
      (∀ p ∈ (a.trace source cs).zipIdx, dropped p.2 = true → p.1.verdict.isKept = false) →
      a.trace source (withoutPlaces dropped cs) = withoutPlaces dropped (a.trace source cs) ∧
      a.run source (withoutPlaces dropped cs) = a.run source cs) ∧
    ((outlinePushes source cs).map (·.1) = Assembler.empty.trace source (byStartRow cs) ∧
      ∀ p ∈ outlinePushes source cs, cs[p.2]? = some p.1.capture) ∧
    ((∀ p ∈ outlinePushes source cs, dropped p.2 = true → p.1.verdict.isKept = false) →
      (buildOutline source (withoutPlaces dropped cs)).value = (buildOutline source cs).value ∧
      (buildOutline source (withoutPlaces dropped cs)).log
        = ((outlinePushes source cs).filter (!dropped ·.2)).flatMap (·.1.log)) := by
  refine ⟨fun a h => ?_, ⟨map_fst_outlinePushes source cs, fun p => getElem?_of_mem_outlinePushes⟩,
    fun h => ?_⟩
  · rw [← a.placedTrace_zipIdx] at h
    obtain ⟨htrace, hrun⟩ := Assembler.placedTrace_filter h
    rw [List.zipIdx_map_fst] at hrun
    refine ⟨?_, hrun⟩
    rw [withoutPlaces, withoutPlaces, ← a.placedTrace_zipIdx, ← htrace, a.map_fst_placedTrace]
  · rw [buildOutline_withoutPlaces h]
    exact ⟨rfl, rfl⟩

/-- Of a repeated import, a blank comment, a capture that ends before it starts, one below the
    source and an irrelevant one, all but the blank comment are left out. -/
theorem rejected_leave_no_trace_imports :
    let source := ["import os".toList, "  ".toList, "import os".toList]
    let cs : List Capture := [⟨2, 2, .importClause, none⟩, ⟨1, 1, .comment, none⟩,
      ⟨2, 1, .property, none⟩, ⟨0, 0, .importClause, none⟩, ⟨3, 9, .property, none⟩,
      ⟨0, 0, .irrelevant, none⟩]
    let dropped : Nat → Bool := fun place => place ∈ [0, 2, 4, 5]
    ((∀ p ∈ outlinePushes source cs, dropped p.2 = true → p.1.verdict.isKept = false) ∧
      (buildOutline source (withoutPlaces dropped cs)).value = (buildOutline source cs).value) ∧
    ((∀ p ∈ (Assembler.empty.trace source cs.reverse).zipIdx, (p.2 == 5) = true →
        p.1.verdict.isKept = false) ∧
      Assembler.empty.trace source (withoutPlaces (· == 5) cs.reverse)
        = withoutPlaces (· == 5) (Assembler.empty.trace source cs.reverse)) := by
  intro source cs dropped
  have hpushes : outlinePushes source cs
      = [(⟨⟨0, 0, .importClause, none⟩, .kept source[0], ⟨⟨[source[0]]⟩, [source[0]]⟩⟩, 3),
        (⟨⟨0, 0, .irrelevant, none⟩, .skipped, ⟨⟨[source[0]]⟩, [source[0]]⟩⟩, 5),
        (⟨⟨1, 1, .comment, none⟩, .skipped, ⟨⟨[source[0]]⟩, [source[0]]⟩⟩, 1),
        (⟨⟨2, 2, .importClause, none⟩, .repeated, ⟨⟨[source[0]]⟩, [source[0]]⟩⟩, 0),
        (⟨⟨2, 1, .property, none⟩, .skipped, ⟨⟨[source[0]]⟩, [source[0]]⟩⟩, 2),
        (⟨⟨3, 9, .property, none⟩, .skipped, ⟨⟨[source[0]]⟩, [source[0]]⟩⟩, 4)] := by
    cbv
  have houtline : ∀ p ∈ outlinePushes source cs, dropped p.2 = true →
      p.1.verdict.isKept = false := by
    rw [hpushes]
    decide
  have hrun : ∀ p ∈ (Assembler.empty.trace source cs.reverse).zipIdx, (p.2 == 5) = true →
      p.1.verdict.isKept = false := by
    decide
  exact ⟨⟨houtline, ((rejected_leave_no_trace source cs dropped).2.2 houtline).1⟩,
    ⟨hrun, ((rejected_leave_no_trace source cs.reverse (· == 5)).1 .empty hrun).1⟩⟩

end Synopsis
