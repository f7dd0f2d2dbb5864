import Mathlib.Data.List.Basic
import Mathlib.Logic.Relation
import Synopsis.Journal

namespace Synopsis

/-!
# Tasks that share a log

Several tasks are done one after the other, or at the same time.  Each of them puts its records into
the common log, one at a time, and then hands over its result; results are kept in the order of the
tasks, whichever is done first.

* `Task`, `Pool` — a task, and tasks with their log;
* `Pool.Step`, `Pool.Reaches` — what one step may do, and where steps may lead;
* `Pool.Step.promised_eq`, `Pool.Step.perm_journal`, `Pool.Step.journal_eq` — what one step
  preserves: the results, and the records that were made or will be, in order if the tasks are done
  one after the other;
* `Pool.results_of_reaches`, `Pool.perm_log_of_reaches`, `Pool.log_of_reaches` — so the results do
  not depend on the steps, and the log only for its order;
* `Pool.reaches_end` — and the end can be reached.
-/

variable {α : Type}

/-- A task of a batch. -/
inductive Task (α : Type) where
  /-- It is not done: these records are still to be made, and then it hands over its result. -/
  | running (rest : Logged α)
  /-- It has handed over its result. -/
  | finished (value : α)

/-- The result of a task that is done. -/
def Task.value? : Task α → Option α
  | .running _ => none
  | .finished value => some value

/-- The result that a task hands over sooner or later. -/
def Task.promised : Task α → α
  | .running rest => rest.value
  | .finished value => value

/-- The records that a task has still to make. -/
def Task.pending : Task α → List Record
  | .running rest => rest.log
  | .finished _ => []

/-- Tasks with the log that they share. -/
structure Pool (α : Type) where
  /-- The tasks, in the order in which they were given. -/
  tasks : List (Task α)
  /-- The records, oldest first. -/
  log : List Record

/-- The tasks before the first step. -/
def Pool.start (jobs : List (Logged α)) : Pool α := ⟨jobs.map .running, []⟩

/-- The results, if all tasks are done. -/
def Pool.results? (p : Pool α) : Option (List α) := p.tasks.mapM Task.value?

/-- The results that are handed over sooner or later. -/
def Pool.promised (p : Pool α) : List α := p.tasks.map Task.promised

/-- The records that were made, and then those that are still to be made. -/
def Pool.journal (p : Pool α) : List Record := p.log ++ p.tasks.flatMap Task.pending

/-- One step of one task.  If tasks are done one after the other, those before it are done. -/
inductive Pool.Step (parallel : Bool) : Pool α → Pool α → Prop where
  /-- The task makes its next record. -/
  | record {before after : List (Task α)} {value : α} {r : Record} {rest log : List Record}
      (turn : parallel = true ∨ ∀ t ∈ before, t.value?.isSome = true) :
      Step parallel ⟨before ++ .running ⟨value, r :: rest⟩ :: after, log⟩
        ⟨before ++ .running ⟨value, rest⟩ :: after, log ++ [r]⟩
  /-- The task has made all records and hands over its result. -/
  | finish {before after : List (Task α)} {value : α} {log : List Record}
      (turn : parallel = true ∨ ∀ t ∈ before, t.value?.isSome = true) :
      Step parallel ⟨before ++ .running ⟨value, []⟩ :: after, log⟩
        ⟨before ++ .finished value :: after, log⟩

/-- Whether steps may lead from the one to the other. -/
def Pool.Reaches (parallel : Bool) : Pool α → Pool α → Prop := Relation.ReflTransGen (Step parallel)

/-! ### What a step preserves -/

variable {parallel : Bool} {p p' : Pool α}

/-- No step changes a result. -/
theorem Pool.Step.promised_eq (h : Step parallel p p') : p'.promised = p.promised := by
  cases h with
  | record turn => simp [promised, Task.promised]
  | finish turn => simp [promised, Task.promised]

/-- No step adds or drops a record. -/
theorem Pool.Step.perm_journal (h : Step parallel p p') : p'.journal.Perm p.journal := by
  cases h with
  | @record before after value r rest log turn =>
    simp only [journal, List.flatMap_append, List.flatMap_cons, Task.pending, List.append_assoc,
      List.cons_append, List.nil_append]
    exact List.Perm.append_left log List.perm_middle.symm
  | finish turn => simp [journal, Task.pending]

theorem flatMap_pending_eq_nil {tasks : List (Task α)}
    (h : ∀ t ∈ tasks, t.value?.isSome = true) : tasks.flatMap Task.pending = [] := by
  rw [List.flatMap_eq_nil_iff]
  intro t ht
  cases t with
  | running rest => cases h _ ht
  | finished value => rfl

/-- If tasks are done one after the other, no step changes the order of the records. -/
theorem Pool.Step.journal_eq (h : Step false p p') : p'.journal = p.journal := by
  cases h with
  | @record before after value r rest log turn =>
    have hbefore := flatMap_pending_eq_nil (turn.resolve_left Bool.false_ne_true)
    simp only [journal, List.flatMap_append, List.flatMap_cons, hbefore, Task.pending,
      List.append_assoc, List.cons_append, List.nil_append]
  | finish turn => simp [journal, Task.pending]

/-! ### Runs -/

theorem Pool.promised_of_reaches (h : Reaches parallel p p') : p'.promised = p.promised := by
  induction h with
  | refl => rfl
  | tail _ hstep ih => exact hstep.promised_eq.trans ih

theorem Pool.perm_journal_of_reaches (h : Reaches parallel p p') :
    p'.journal.Perm p.journal := by
  induction h with
  | refl => exact List.Perm.refl _
  | tail _ hstep ih => exact hstep.perm_journal.trans ih

theorem Pool.journal_of_reaches (h : Reaches false p p') : p'.journal = p.journal := by
  induction h with
  | refl => rfl
  | tail _ hstep ih => exact hstep.journal_eq.trans ih

/-- All tasks are done if each has handed over its result. -/
theorem Pool.results?_eq_some_iff {results : List α} :
    p.results? = some results ↔ p.tasks = results.map .finished := by
  obtain ⟨tasks, log⟩ := p
  show tasks.mapM Task.value? = some results ↔ tasks = results.map .finished
  induction tasks generalizing results with
  | nil => cases results <;> simp
  | cons t tasks ih =>
    rw [List.mapM_cons]
    cases t with
    | running rest => cases results <;> simp [Task.value?]
    | finished value =>
      cases results with
      | nil => cases tasks.mapM Task.value? <;> simp [Task.value?]
      | cons result results =>
        rw [List.map_cons, List.cons.injEq, ← ih]
        cases tasks.mapM Task.value? <;> simp [Task.value?]

variable {jobs : List (Logged α)} {results : List α}

theorem Pool.promised_start (jobs : List (Logged α)) :
    (start jobs).promised = jobs.map (·.value) :=
  List.map_map

theorem Pool.journal_start (jobs : List (Logged α)) :
    (start jobs).journal = jobs.flatMap (·.log) :=
  List.flatMap_map _ _ _

/-- Once all tasks are done, nothing is left to be made. -/
theorem Pool.journal_of_results? (h : p.results? = some results) : p.journal = p.log := by
  have hpending : p.tasks.flatMap Task.pending = [] := by
    rw [results?_eq_some_iff.1 h]
    apply flatMap_pending_eq_nil
    intro t ht
    obtain ⟨value, -, rfl⟩ := List.mem_map.1 ht
    rfl
  rw [journal, hpending, List.append_nil]

/-- **The results do not depend on the steps.** -/
theorem Pool.results_of_reaches (h : Reaches parallel (start jobs) p)
    (hresults : p.results? = some results) : results = jobs.map (·.value) := by
  rw [← promised_start, ← promised_of_reaches h, promised, results?_eq_some_iff.1 hresults,
    List.map_map]
  exact (List.map_id' results).symm

/-- **The log depends on the steps only for its order.** -/
theorem Pool.perm_log_of_reaches (h : Reaches parallel (start jobs) p)
    (hresults : p.results? = some results) : p.log.Perm (jobs.flatMap (·.log)) := by
  rw [← journal_start, ← journal_of_results? hresults]
  exact perm_journal_of_reaches h

/-- If tasks are done one after the other, so are their records. -/
theorem Pool.log_of_reaches (h : Reaches false (start jobs) p)
    (hresults : p.results? = some results) : p.log = jobs.flatMap (·.log) := by
  rw [← journal_start, ← journal_of_results? hresults]
  exact journal_of_reaches h

/-! ### The end -/

/-- The first task that is not done can be done. -/
theorem Pool.reaches_finished (parallel : Bool) (done : List α) (job : Logged α)
    (after : List (Task α)) (log : List Record) :
    Reaches parallel ⟨done.map .finished ++ .running job :: after, log⟩
      ⟨done.map .finished ++ .finished job.value :: after, log ++ job.log⟩ := by
  have hturn : ∀ t ∈ done.map Task.finished, t.value?.isSome = true := by
    intro t ht
    obtain ⟨value, -, rfl⟩ := List.mem_map.1 ht
    rfl
  obtain ⟨value, records⟩ := job
  induction records generalizing log with
  | nil =>
    rw [List.append_nil]
    exact Relation.ReflTransGen.single (.finish (Or.inr hturn))
  | cons r rest ih =>
    have hrest := ih (log ++ [r])
    rw [List.append_assoc, List.singleton_append] at hrest
    exact Relation.ReflTransGen.head (.record (Or.inr hturn)) hrest

theorem Pool.reaches_end_from (parallel : Bool) (done : List α) (jobs : List (Logged α))
    (log : List Record) :
    Reaches parallel ⟨done.map .finished ++ jobs.map .running, log⟩
      ⟨(done ++ jobs.map (·.value)).map .finished, log ++ jobs.flatMap (·.log)⟩ := by
  induction jobs generalizing done log with
  | nil =>
    simp only [List.map_nil, List.append_nil, List.flatMap_nil]
    exact Relation.ReflTransGen.refl
  | cons job jobs ih =>
    have hrest := ih (done ++ [job.value]) (log ++ job.log)
    simp only [List.map_append, List.map_cons, List.map_nil, List.append_assoc,
      List.singleton_append] at hrest
    have hfirst := reaches_finished parallel done job (jobs.map .running) log
    simp only [List.map_append, List.map_cons, List.flatMap_cons]
    exact hfirst.trans hrest

/-- **The end can be reached**, with the records in the order of the tasks. -/
theorem Pool.reaches_end (parallel : Bool) (jobs : List (Logged α)) :
    Reaches parallel (start jobs)
      ⟨(jobs.map (·.value)).map .finished, jobs.flatMap (·.log)⟩ :=
  reaches_end_from parallel [] jobs []

end Synopsis
