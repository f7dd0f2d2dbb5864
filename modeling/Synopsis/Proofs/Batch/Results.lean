import Synopsis.Proofs.Batch.Ending
import Synopsis.Proofs.Batch.Pool
import Synopsis.Proofs.Outline.Accounting

namespace Synopsis

/-!
# Batches file by file

What a batch gives for a file is what outlining the file alone gives, and the log of the batch
matches the results, in whatever order the files are done.

* `Storage.log_outlineFile` — the records of one file;
* `linesFrom`, `failureLine?`, `successLine?` — the lines of a log that are of some kind, and what
  they should say;
* `Storage.LogMatches` — what the lines of a log say about the results;
* `Storage.perm_linesFrom` — the lines of a batch that are of some kind are those of its files;
* `Storage.outlineFiles_file_by_file` — the results and the log of a batch.
-/

section

variable {st : Storage} {x : Extractor} {s : Settings} {path : Path}

/-! ### Records of one file -/

/-- Outlining a file fails without a record, or makes the records of the outline. -/
theorem Storage.outlineFile_cases (st : Storage) (x : Extractor) (s : Settings) (path : Path) :
    (∃ e, st.outlineFile x s path = ⟨.error e, []⟩) ∨
    ∃ content nodes, st.outlineFile x s path
      = ⟨.ok (.ofOutline path content (x.extract path content nodes).value),
        (x.extract path content nodes).log⟩ := by
  unfold outlineFile
  cases st.source s path with
  | error e => exact Or.inl ⟨e, rfl⟩
  | ok source => exact Or.inr ⟨source.1, source.2, rfl⟩

/-- The record that tells of a success, if the language is supported: it has the numbers of the
    result. -/
def successRecord? (x : Extractor) (path : Path) : Except Error FileOutline → Option Record
  | .error _ => none
  | .ok o => (x.languageOf? path).map fun l => .outlined path l o.sourceLines o.outlineLines

/-- **The records of one file** are those of repeated captures, and last the one that tells of a
    success. -/
theorem Storage.log_outlineFile (st : Storage) (x : Extractor) (s : Settings) (path : Path) :
    ∃ repeated : List (Kind × Nat), (st.outlineFile x s path).log
      = repeated.map (fun r => .repeated r.1 r.2)
        ++ (successRecord? x path (st.outlineFile x s path).value).toList := by
  obtain ⟨e, h⟩ | ⟨content, nodes, h⟩ := st.outlineFile_cases x s path
  · rw [h]
    exact ⟨[], rfl⟩
  · rw [h]
    unfold Extractor.extract successRecord?
    cases x.languageOf? path with
    | none => exact ⟨[], rfl⟩
    | some l =>
      have hlog := log_run (lines content) (byStartRow (captures nodes))
      refine ⟨(repeats (lines content) (byStartRow (captures nodes))).map
        fun p => (p.1.kind, p.1.startRow), ?_⟩
      rw [List.map_map]
      exact congrArg (· ++ _) hlog

/-! ### Lines -/

/-- The line that tells of a failure. -/
def failureLine? (path : Path) : Except Error FileOutline → Option Text
  | .error e =>
    some ("ERROR Failed to outline ".toList ++ path.display ++ ": ".toList ++ e.message)
  | .ok _ => none

/-- The line that tells of a success, if the language is supported. -/
def successLine? (x : Extractor) (path : Path) : Except Error FileOutline → Option Text
  | .error _ => none
  | .ok o => (x.languageOf? path).map fun l =>
    "DEBUG Outlined ".toList ++ path.display ++ " (".toList ++ l.name ++ "): ".toList
      ++ decimal o.sourceLines ++ " lines -> ".toList ++ decimal o.outlineLines ++ " lines".toList

/-- The lines of a log that begin in a certain way. -/
def linesFrom (front : Text) (log : List Record) : List Text :=
  (log.map Record.line).filter front.isPrefixOf

theorem linesFrom_append (front : Text) (log log' : List Record) :
    linesFrom front (log ++ log') = linesFrom front log ++ linesFrom front log' := by
  rw [linesFrom, List.map_append, List.filter_append]
  rfl

theorem linesFrom_flatMap {β : Type} (front : Text) (items : List β) (log : β → List Record) :
    linesFrom front (items.flatMap log) = items.flatMap fun i => linesFrom front (log i) := by
  rw [linesFrom, List.map_flatMap, List.filter_flatMap]
  rfl

theorem linesFrom_eq_nil {front : Text} {log : List Record}
    (h : ∀ r ∈ log, front.isPrefixOf r.line = false) : linesFrom front log = [] := by
  rw [linesFrom, List.filter_eq_nil_iff]
  intro line hline
  obtain ⟨r, hr, rfl⟩ := List.mem_map.1 hline
  rw [h r hr]
  decide

theorem linesFrom_eq_map {front : Text} {log : List Record}
    (h : ∀ r ∈ log, front.isPrefixOf r.line = true) :
    linesFrom front log = log.map Record.line := by
  rw [linesFrom, List.filter_eq_self]
  intro line hline
  obtain ⟨r, hr, rfl⟩ := List.mem_map.1 hline
  exact h r hr

/-- A record of a file tells of a repeated capture or of a success. -/
theorem Storage.mem_log_outlineFile {r : Record} (h : r ∈ (st.outlineFile x s path).log) :
    (∃ kind row, r = .repeated kind row) ∨ ∃ l n m, r = .outlined path l n m := by
  obtain ⟨repeated, hlog⟩ := st.log_outlineFile x s path
  rw [hlog, List.mem_append] at h
  rcases h with h | h
  · obtain ⟨p, -, rfl⟩ := List.mem_map.1 h
    exact Or.inl ⟨p.1, p.2, rfl⟩
  · rw [Option.mem_toList] at h
    unfold successRecord? at h
    split at h
    · cases h
    · obtain ⟨l, -, rfl⟩ := Option.map_eq_some_iff.1 h
      exact Or.inr ⟨l, _, _, rfl⟩

/-- No line of a file tells of a failure; that is up to the batch. -/
theorem Storage.linesFrom_error_outlineInBatch (st : Storage) (x : Extractor) (s : Settings)
    (path : Path) :
    linesFrom "ERROR ".toList (st.outlineInBatch x s path).log
      = (failureLine? path (st.outlineFile x s path).value).toList := by
  have hown : linesFrom "ERROR ".toList (st.outlineFile x s path).log = [] := by
    apply linesFrom_eq_nil
    intro r hr
    obtain ⟨_, _, rfl⟩ | ⟨_, _, _, rfl⟩ := mem_log_outlineFile hr <;> rfl
  rw [outlineInBatch, linesFrom_append, hown, List.nil_append]
  cases (st.outlineFile x s path).value <;> rfl

/-- All lines for debugging are those of the file. -/
theorem Storage.linesFrom_debug_outlineInBatch (st : Storage) (x : Extractor) (s : Settings)
    (path : Path) :
    linesFrom "DEBUG ".toList (st.outlineInBatch x s path).log
      = (st.outlineFile x s path).log.map Record.line := by
  have hown : linesFrom "DEBUG ".toList (st.outlineFile x s path).log
      = (st.outlineFile x s path).log.map Record.line := by
    apply linesFrom_eq_map
    intro r hr
    obtain ⟨_, _, rfl⟩ | ⟨_, _, _, rfl⟩ := mem_log_outlineFile hr <;> rfl
  rw [outlineInBatch, linesFrom_append, hown]
  cases (st.outlineFile x s path).value <;> exact List.append_nil _

/-- One line tells of a success, if the language is supported. -/
theorem Storage.linesFrom_success_outlineInBatch (st : Storage) (x : Extractor) (s : Settings)
    (path : Path) :
    linesFrom "DEBUG Outlined ".toList (st.outlineInBatch x s path).log
      = (successLine? x path (st.outlineFile x s path).value).toList := by
  obtain ⟨repeated, hlog⟩ := st.log_outlineFile x s path
  have hrepeated : linesFrom "DEBUG Outlined ".toList
      (repeated.map fun r => Record.repeated r.1 r.2) = [] := by
    apply linesFrom_eq_nil
    intro r hr
    obtain ⟨_, -, rfl⟩ := List.mem_map.1 hr
    rfl
  rw [outlineInBatch, linesFrom_append, hlog, linesFrom_append, hrepeated, List.nil_append]
  cases (st.outlineFile x s path).value with
  | error e => rfl
  | ok o =>
    unfold successRecord? successLine?
    cases x.languageOf? path <;> rfl

/-! ### Batches -/

/-- What the lines of a log say about the files of a batch. -/
structure Storage.LogMatches (st : Storage) (x : Extractor) (s : Settings) (paths : List Path)
    (log : List Record) : Prop where
  /-- There is one line for each file that fails, with the words of its error. -/
  errors : (linesFrom "ERROR ".toList log).Perm
    (paths.filterMap fun path => failureLine? path (st.outlineFile x s path).value)
  /-- The lines for debugging are those of each file when it is outlined alone. -/
  debugs : (linesFrom "DEBUG ".toList log).Perm
    (paths.flatMap fun path => (st.outlineFile x s path).log.map Record.line)
  /-- A file that fails makes none. -/
  silent : ∀ path ∈ paths, ∀ e, (st.outlineFile x s path).value = .error e →
    (st.outlineFile x s path).log = []
  /-- There is one line for each file of a supported language that does not fail, with the numbers
      of its result. -/
  successes : (linesFrom "DEBUG Outlined ".toList log).Perm
    (paths.filterMap fun path => successLine? x path (st.outlineFile x s path).value)

/-- The lines of a batch are those of its files. -/
theorem Storage.perm_linesFrom {paths : List Path} {log : List Record}
    (hlog : log.Perm (st.outlineFiles x s paths).log) (front : Text) :
    (linesFrom front log).Perm
      (paths.flatMap fun path => linesFrom front (st.outlineInBatch x s path).log) := by
  rw [← linesFrom_flatMap, ← List.flatMap_map]
  exact (hlog.map Record.line).filter _

/-- A log with the records of the files matches their results, whatever its order. -/
theorem Storage.logMatches_of_perm {paths : List Path} {log : List Record}
    (hlog : log.Perm (st.outlineFiles x s paths).log) : st.LogMatches x s paths log := by
  refine ⟨?errors, ?debugs, fun path _ e he => ?silent, ?successes⟩
  case errors =>
    have herrors := perm_linesFrom hlog "ERROR ".toList
    simp only [linesFrom_error_outlineInBatch] at herrors
    rwa [List.filterMap_eq_flatMap_toList]
  case debugs =>
    have hdebugs := perm_linesFrom hlog "DEBUG ".toList
    simp only [linesFrom_debug_outlineInBatch] at hdebugs
    exact hdebugs
  case silent =>
    obtain ⟨e', h⟩ | ⟨content, nodes, h⟩ := st.outlineFile_cases x s path
    · rw [h]
    · rw [h] at he
      cases he
  case successes =>
    have hsuccesses := perm_linesFrom hlog "DEBUG Outlined ".toList
    simp only [linesFrom_success_outlineInBatch] at hsuccesses
    rwa [List.filterMap_eq_flatMap_toList]

/-- The files of a batch before the first step. -/
def Storage.batch (st : Storage) (x : Extractor) (s : Settings) (paths : List Path) :
    Pool (Except Error FileOutline) :=
  .start (paths.map (st.outlineInBatch x s))

theorem Storage.value_outlineFiles (st : Storage) (x : Extractor) (s : Settings)
    (paths : List Path) :
    (st.outlineFiles x s paths).value = paths.map fun path => (st.outlineFile x s path).value :=
  List.map_map

/-- **A batch treats each file by itself.**  It gives the result of each file alone, in the order
    of the paths, whether or not the files are outlined at the same time; each of them ends by what
    goes wrong first, and a file that is too large is not read.  The batch can come to an end, and
    whenever it does, after whatever steps, it gives these results, and a log that matches them; if
    the files are outlined one after the other, so are their records. -/
theorem Storage.outlineFiles_file_by_file (st : Storage) (x : Extractor) (s : Settings)
    (paths : List Path) :
    (st.outlineFiles x s paths).value = paths.map (fun path => (st.outlineFile x s path).value) ∧
    (∀ parallel, st.outlineFiles x { s with parallel } paths = st.outlineFiles x s paths) ∧
    (∀ path r, (st.outlineFile x s path).value = r ↔ st.Ends x s path r) ∧
    (∀ (st' : Storage) (path : Path) (status : Status), st.status path = .ok status →
      st'.status path = .ok status → s.maxFileBytes < status.size →
        st'.outlineFile x s path = st.outlineFile x s path) ∧
    (∃ pool, Pool.Reaches s.parallel (st.batch x s paths) pool ∧
      pool.results? = some (st.outlineFiles x s paths).value ∧
      pool.log = (st.outlineFiles x s paths).log) ∧
    ∀ pool results, Pool.Reaches s.parallel (st.batch x s paths) pool →
      pool.results? = some results →
        results = (st.outlineFiles x s paths).value ∧ st.LogMatches x s paths pool.log ∧
        (s.parallel = false → pool.log = (st.outlineFiles x s paths).log) := by
  refine ⟨st.value_outlineFiles x s paths, fun parallel => rfl, fun path r => outlineFile_eq_iff,
    fun st' path status hstatus hstatus' hsize =>
      outlineFile_congr_of_tooLarge hstatus hstatus' hsize,
    ?_, fun pool results hreaches hresults => ⟨?_, ?_, fun hparallel => ?_⟩⟩
  · exact ⟨_, Pool.reaches_end s.parallel _, Pool.results?_eq_some_iff.2 rfl, rfl⟩
  · exact Pool.results_of_reaches hreaches hresults
  · exact logMatches_of_perm (Pool.perm_log_of_reaches hreaches hresults)
  · rw [hparallel] at hreaches
    exact Pool.log_of_reaches hreaches hresults

/-- Two files: one that can be outlined, and one that is too large and cannot be read either. -/
def Storage.mixed : Storage where
  status path := .ok ⟨false, if path = encode "a.rs".toList then 6 else 30⟩
  file path :=
    if path = encode "a.rs".toList then
      .ok ⟨encode "// x\n\n".toList, [⟨"comment".toList, ⟨0, 0⟩, ⟨0, 4⟩, none⟩]⟩
    else .error .isDirectory

/-- Settings that allow few bytes. -/
def Settings.fewBytes : Settings := { Settings.default with maxFileBytes := 20 }

/-- The second file makes its record before the first, and the results keep their order; outlined
    in turn, the files make their records in order too. -/
theorem Storage.outlineFiles_file_by_file_mixed :
    let a := encode "a.rs".toList
    let b := encode "b.rs".toList
    let inTurn : Settings := { Settings.fewBytes with parallel := false }
    let outlined := Storage.mixed.outlineFile .full .fewBytes a
    let refused : Except Error FileOutline := .error (.fileTooLarge b 30 20)
    let pool (log : List Record) : Pool (Except Error FileOutline) :=
      ⟨[.finished refused, .finished outlined.value], log⟩
    let success : Record := .outlined a .rust 2 1
    let failure : Record := .failed b (.fileTooLarge b 30 20)
    (Pool.Reaches true (Storage.mixed.batch .full .fewBytes [b, a]) (pool [success, failure]) ∧
      (Storage.mixed.outlineFiles .full .fewBytes [b, a]).value = [refused, outlined.value] ∧
      Storage.mixed.LogMatches .full .fewBytes [b, a] [success, failure] ∧
      linesFrom "ERROR ".toList [success, failure]
        = ["ERROR Failed to outline b.rs: b.rs is 30 bytes, limit is 20".toList]) ∧
    (Pool.Reaches false (Storage.mixed.batch .full inTurn [b, a]) (pool [failure, success]) ∧
      [failure, success] = (Storage.mixed.outlineFiles .full inTurn [b, a]).log) ∧
    Storage.outlineFile ⟨Storage.mixed.status, fun _ => .error .notFound⟩ .full .fewBytes b
      = Storage.mixed.outlineFile .full .fewBytes b ∧
    (Storage.mixed.outlineFile .full .fewBytes b).value = refused := by
  intro a b inTurn outlined refused pool success failure
  have hb : Storage.mixed.outlineInBatch .full .fewBytes b = ⟨refused, [failure]⟩ := rfl
  have ha : Storage.mixed.outlineInBatch .full .fewBytes a = ⟨outlined.value, [success]⟩ := by
    have hlog : (Storage.mixed.outlineInBatch .full .fewBytes a).log = [success] := by
      decide +kernel
    rw [← hlog]
    rfl
  have hstart : Storage.mixed.batch .full .fewBytes [b, a]
      = ⟨[.running ⟨refused, [failure]⟩, .running ⟨outlined.value, [success]⟩], []⟩ := by
    rw [batch, List.map_cons, List.map_cons, List.map_nil, hb, ha]
    rfl
  have hreaches : Pool.Reaches true (Storage.mixed.batch .full .fewBytes [b, a])
      (pool [success, failure]) := by
    rw [hstart]
    -- The first file is done before the second makes its record.
    apply Relation.ReflTransGen.head
      (@Pool.Step.record _ true [.running ⟨refused, [failure]⟩] [] _ _ _ _ (Or.inl rfl))
    apply Relation.ReflTransGen.head
      (@Pool.Step.finish _ true [.running ⟨refused, [failure]⟩] [] _ _ (Or.inl rfl))
    apply Relation.ReflTransGen.head (@Pool.Step.record _ true [] _ _ _ _ _ (Or.inl rfl))
    exact Relation.ReflTransGen.single (@Pool.Step.finish _ true [] _ _ _ (Or.inl rfl))
  have hinTurn : Pool.Reaches false (Storage.mixed.batch .full inTurn [b, a])
      (pool [failure, success]) := by
    show Pool.Reaches false (Storage.mixed.batch .full .fewBytes [b, a]) _
    rw [hstart]
    exact Pool.reaches_end false [⟨refused, [failure]⟩, ⟨outlined.value, [success]⟩]
  have hstatus : Storage.mixed.status b = .ok ⟨false, 30⟩ := rfl
  have hsize : Settings.fewBytes.maxFileBytes < 30 := by decide
  obtain ⟨-, -, hends, hunread, -, hpool⟩ :=
    Storage.mixed.outlineFiles_file_by_file .full .fewBytes [b, a]
  obtain ⟨-, -, -, -, -, hpoolInTurn⟩ :=
    Storage.mixed.outlineFiles_file_by_file .full inTurn [b, a]
  obtain ⟨hvalue, hlog, -⟩ := hpool _ [refused, outlined.value] hreaches rfl
  obtain ⟨-, -, hinOrder⟩ := hpoolInTurn _ [refused, outlined.value] hinTurn rfl
  refine ⟨⟨hreaches, hvalue.symm, hlog, by decide +kernel⟩, ⟨hinTurn, hinOrder rfl⟩, ?_, ?_⟩
  · exact hunread _ b _ hstatus hstatus hsize
  · exact (hends b refused).2 (.tooLarge rfl hstatus hsize)

end

end Synopsis
