import Synopsis.Journal
import Synopsis.Outline.Chunk

namespace Synopsis

/-!
# Assembling an outline

Captures are pushed one after another; chunks stand in the order in which they were pushed.

* `Keys` — the texts that have been seen;
* `Assembler` — the chunks kept so far and the texts among them that stand only once;
* `Assembler.judge`, `Assembler.push` — what becomes of a capture;
* `Assembler.run`, `Assembler.trace` — what becomes of a list of captures;
* `buildOutline` — the outline of a source.
-/

/-- The texts that have been seen. -/
structure Keys where
  /-- The texts, latest first. -/
  texts : List Text
  deriving Repr, DecidableEq

/-- No text has been seen. -/
def Keys.empty : Keys := ⟨[]⟩

/-- Whether the text has been seen. -/
def Keys.has (k : Keys) (text : Text) : Bool := k.texts.contains text

/-- The texts seen once this one is seen too. -/
def Keys.insert (k : Keys) (text : Text) : Keys := if k.has text then k else ⟨text :: k.texts⟩

/-- Whether each of the texts differs from all texts before it. -/
def Keys.areFresh (k : Keys) : List Text → List Bool
  | [] => []
  | text :: rest => (!k.has text) :: (k.insert text).areFresh rest

theorem Keys.has_iff {k : Keys} {text : Text} : k.has text = true ↔ text ∈ k.texts := by
  simp [has]

@[simp] theorem Keys.has_empty (text : Text) : Keys.empty.has text = false := rfl

/-- Once a text is seen, it is known beside the ones known before. -/
theorem Keys.has_insert {k : Keys} {text other : Text} :
    (k.insert text).has other = true ↔ other = text ∨ k.has other = true := by
  rw [insert]
  split
  · rename_i hk
    constructor
    · exact Or.inr
    · rintro (rfl | h)
      · exact hk
      · exact h
  · simp only [has_iff, List.mem_cons]

/-- An outline in the making. -/
structure Assembler where
  /-- The texts of the structural chunks. -/
  keys : Keys
  /-- The chunks, in the order in which they were pushed. -/
  chunks : List Text
  deriving Repr, DecidableEq

/-- Nothing has been pushed. -/
def Assembler.empty : Assembler := ⟨.empty, []⟩

/-- What stands between two chunks of an outline. -/
def chunkSeparator : Text := ['\n', '\n']

/-- The outline of what was pushed so far. -/
def Assembler.outline (a : Assembler) : Text := chunkSeparator.intercalate a.chunks

/-- What becomes of a capture. -/
inductive Verdict where
  /-- It contributes nothing. -/
  | skipped
  /-- It is structural, and its text stands in the outline already. -/
  | repeated
  /-- It contributes a chunk. -/
  | kept (chunk : Text)
  deriving Repr, DecidableEq

/-- What becomes of a capture that is pushed now. -/
def Assembler.judge (a : Assembler) (source : List Text) (c : Capture) : Verdict :=
  match c.chunk? source with
  | none => .skipped
  | some chunk => if c.kind.isStructural && a.keys.has chunk then .repeated else .kept chunk

/-- The record made of a capture. -/
def Verdict.log (v : Verdict) (c : Capture) : List Record :=
  match v with
  | .repeated => [.repeated c.kind c.startRow]
  | _ => []

/-- Whether the capture contributes a chunk. -/
def Verdict.isKept : Verdict → Bool
  | .kept _ => true
  | _ => false

/-- The outline in the making after a verdict on a capture. -/
def Assembler.settle (a : Assembler) (c : Capture) : Verdict → Assembler
  | .kept chunk =>
    ⟨if c.kind.isStructural then a.keys.insert chunk else a.keys, a.chunks ++ [chunk]⟩
  | _ => a

/-- The outline in the making after a capture was pushed. -/
def Assembler.push (a : Assembler) (source : List Text) (c : Capture) : Assembler :=
  a.settle c (a.judge source c)

/-- **What a push can do.**  Nothing, if the capture has no chunk or its chunk stands in the
    outline already; otherwise the chunk is appended, and remembered if it is structural. -/
theorem Assembler.push_cases (a : Assembler) (source : List Text) (c : Capture) :
    (c.chunk? source = none ∧ a.judge source c = .skipped ∧ a.push source c = a) ∨
    (∃ t, c.chunk? source = some t ∧ c.kind.isStructural = true ∧ a.keys.has t = true ∧
      a.judge source c = .repeated ∧ a.push source c = a) ∨
    (∃ t, c.chunk? source = some t ∧ c.kind.isStructural = true ∧ a.keys.has t = false ∧
      a.judge source c = .kept t ∧ a.push source c = ⟨a.keys.insert t, a.chunks ++ [t]⟩) ∨
    (∃ t, c.chunk? source = some t ∧ c.kind.isStructural = false ∧
      a.judge source c = .kept t ∧ a.push source c = ⟨a.keys, a.chunks ++ [t]⟩) := by
  cases hc : c.chunk? source with
  | none => simp [push, judge, settle, hc]
  | some t =>
    by_cases hs : c.kind.isStructural = true
    · by_cases hk : a.keys.has t = true <;> simp [push, judge, settle, hc, hs, hk]
    · simp [push, judge, settle, hc, hs]

/-- The outline in the making after captures were pushed in order. -/
def Assembler.run (a : Assembler) (source : List Text) (cs : List Capture) : Assembler :=
  cs.foldl (·.push source ·) a

@[simp] theorem Assembler.run_nil (a : Assembler) (source : List Text) : a.run source [] = a := rfl

theorem Assembler.run_append (a : Assembler) (source : List Text) (cs ds : List Capture) :
    a.run source (cs ++ ds) = (a.run source cs).run source ds :=
  List.foldl_append

theorem Assembler.run_concat (a : Assembler) (source : List Text) (cs : List Capture)
    (c : Capture) : a.run source (cs ++ [c]) = (a.run source cs).push source c :=
  a.run_append source cs [c]

/-- One push. -/
structure Step where
  /-- What was pushed. -/
  capture : Capture
  /-- What became of it. -/
  verdict : Verdict
  /-- The outline in the making after it. -/
  after : Assembler
  deriving Repr, DecidableEq

/-- The records that were made of the push. -/
def Step.log (s : Step) : List Record := s.verdict.log s.capture

/-- The pushes of several captures in order. -/
def Assembler.trace (a : Assembler) (source : List Text) : List Capture → List Step
  | [] => []
  | c :: rest =>
    let verdict := a.judge source c
    let after := a.settle c verdict
    ⟨c, verdict, after⟩ :: after.trace source rest

@[simp] theorem Assembler.trace_nil (a : Assembler) (source : List Text) :
    a.trace source [] = [] := rfl

/-- The pushes of a list are those of its first part and then, from where these lead, the rest. -/
theorem Assembler.trace_append (a : Assembler) (source : List Text) (cs ds : List Capture) :
    a.trace source (cs ++ ds) = a.trace source cs ++ (a.run source cs).trace source ds := by
  induction cs generalizing a with
  | nil => rfl
  | cons c rest ih => exact congrArg (List.cons _) (ih (a.push source c))

theorem Assembler.trace_concat (a : Assembler) (source : List Text) (cs : List Capture)
    (c : Capture) :
    a.trace source (cs ++ [c]) = a.trace source cs ++
      [⟨c, (a.run source cs).judge source c, (a.run source cs).push source c⟩] :=
  a.trace_append source cs [c]

/-- Every capture is pushed once, in order. -/
theorem Assembler.map_capture_trace (a : Assembler) (source : List Text) (cs : List Capture) :
    (a.trace source cs).map (·.capture) = cs := by
  induction cs generalizing a with
  | nil => rfl
  | cons c rest ih => exact congrArg (List.cons c) (ih (a.push source c))

/-- What becomes of captures depends on the source only through their chunks. -/
theorem Assembler.trace_congr {source source' : List Text} {cs : List Capture}
    (h : ∀ c ∈ cs, c.chunk? source = c.chunk? source') (a : Assembler) :
    a.trace source cs = a.trace source' cs ∧ a.run source cs = a.run source' cs := by
  induction cs generalizing a with
  | nil => exact ⟨rfl, rfl⟩
  | cons c rest ih =>
    have hj : a.judge source c = a.judge source' c := by
      rw [judge, judge, h c List.mem_cons_self]
    have hp : a.push source c = a.push source' c := by
      rw [push, push, hj]
    obtain ⟨htrace, hrun⟩ := ih (fun d hd => h d (List.mem_cons_of_mem c hd)) (a.push source' c)
    constructor
    · show Step.mk c (a.judge source c) (a.push source c) :: (a.push source c).trace source rest
        = Step.mk c (a.judge source' c) (a.push source' c) :: (a.push source' c).trace source' rest
      rw [hj, hp, htrace]
    · show (a.push source c).run source rest = (a.push source' c).run source' rest
      rw [hp, hrun]

/-- The captures by their first row; captures that start on the same row keep their order. -/
def byStartRow (cs : List Capture) : List Capture :=
  cs.mergeSort fun a b => a.startRow ≤ b.startRow

/-- The outline of a source, made of its captures. -/
def buildOutline (source : List Text) (cs : List Capture) : Logged Text :=
  let ordered := byStartRow cs
  ⟨(Assembler.empty.run source ordered).outline,
    (Assembler.empty.trace source ordered).flatMap (·.log)⟩

end Synopsis
