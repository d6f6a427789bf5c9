import ReportExport.Proofs.Export.Exclusive
import ReportExport.Proofs.Storage.Contents

/-!
# What an execution leaves

An execution rebuilds a record's report from its stored descriptor, streams
the report's rows into a CSV file in the staging directory and moves the file
onto the descriptor's disk. This module follows the pipeline's state through
those steps.

On the store's side an execution only stores progress on its own record: a
report's source only reads the records (`Exporter.ReportsRead`), and storing
progress changes a record's count, total and time and nothing else
(`ExportRecord.Progressed`). The records stand as `withRecord recs r`: those
of `recs` with the one of `r`'s id replaced by `r`.

On the file side the tree stays well formed and the execution writes one
staged file, at a path where nothing stood and that is on the way to no
destination (`exec_stage`); the file is gone again at the end. So a failed
execution leaves every file as it was, and one that succeeds leaves the CSV
text of the rows it wrote at the descriptor's location and changes no other
file (`exec_execute`).
-/

namespace ReportExport

open Store Query ExportM

/-! ## The record of a run among the others -/

/-- The records with the one of `r`'s id replaced by `r`. -/
def withRecord (recs : List ExportRecord) (r : ExportRecord) : List ExportRecord :=
  recs.map fun q => if q.id = r.id then r else q

section WithRecord

variable {recs : List ExportRecord} {r a b : ExportRecord}

theorem withRecord_withRecord (same : a.id = b.id) : withRecord (withRecord recs a) b = withRecord recs b := by
  unfold withRecord
  rw [List.map_map]
  refine List.map_congr_left fun q _ => ?_
  by_cases own : q.id = a.id
  · simp [own, same]
  · simp [own, ← same]

/-- The record of `r`'s id is found as `r`, once `recs` has a record of that id. -/
theorem find?_withRecord (held : ∃ q ∈ recs, q.id = r.id) : (withRecord recs r).find? (·.id == r.id) = some r := by
  obtain ⟨q, mem, own⟩ := held
  have test : ((fun q : ExportRecord => q.id == r.id) ∘ fun q => if q.id = r.id then r else q) = (·.id == r.id) := by
    funext q
    by_cases own : q.id = r.id <;> simp [own]
  rw [withRecord, List.find?_map, test]
  cases found : recs.find? (·.id == r.id) with
  | none => exact absurd own (by simpa using List.find?_eq_none.mp found q mem)
  | some q₀ =>
    have own₀ : q₀.id = r.id := by simpa using List.find?_some found
    simp [own₀]

theorem mem_withRecord (held : ∃ q ∈ recs, q.id = r.id) : r ∈ withRecord recs r := by
  obtain ⟨q, mem, own⟩ := held
  exact List.mem_map.mpr ⟨q, mem, by simp [own]⟩

/-- A change that keeps the id of `r` and every other record acts on `r` alone. -/
theorem map_withRecord {g : ExportRecord → ExportRecord} (keeps : (g r).id = r.id)
    (others : ∀ q, q.id ≠ r.id → g q = q) : (withRecord recs r).map g = withRecord recs (g r) := by
  unfold withRecord
  rw [List.map_map]
  refine List.map_congr_left fun q _ => ?_
  by_cases own : q.id = r.id
  · simp [own, keeps]
  · simp [own, keeps, others q own]

/-- Every record of `withRecord recs r` is `r` or one of `recs` of another id. -/
theorem mem_withRecord_iff {q : ExportRecord} : q ∈ withRecord recs r → q = r ∨ (q ∈ recs ∧ q.id ≠ r.id) := by
  intro mem
  obtain ⟨q', held, rfl⟩ := List.mem_map.mp mem
  by_cases own : q'.id = r.id
  · exact .inl (by simp [own])
  · exact .inr (by simp [own, held])

theorem readable_withRecord (readable : ∀ q ∈ recs, q.Readable) (own : r.Readable) :
    ∀ q ∈ withRecord recs r, q.Readable := by
  intro q mem
  rcases mem_withRecord_iff mem with rfl | ⟨held, -⟩
  · exact own
  · exact readable q held

end WithRecord

/-- On a store of records, putting back a stored record changes nothing. -/
theorem Stores.withRecord_self {s : RecordStore} {recs : List ExportRecord} (hs : Stores s recs) {r : ExportRecord}
    (held : r ∈ recs) : withRecord recs r = recs := by
  unfold withRecord
  rw [List.map_congr_left (g := fun q => q) fun q mem => ?_, List.map_id']
  by_cases own : q.id = r.id
  · simp [hs.eq_of_id mem held own]
  · simp [own]

/-! ## Progress on a record -/

namespace ExportRecord

/-- `r'` is `r` with progress stored, any number of times: its count, total
and time may differ, nothing else. -/
def Progressed (r r' : ExportRecord) : Prop :=
  ∃ now rows total, r' = r.progressed now rows total

variable {r r' r'' : ExportRecord}

theorem progressed_progressed (now rows : Int) (total : Option Int) (now' rows' : Int) (total' : Option Int) :
    (r.progressed now rows total).progressed now' rows' total' = r.progressed now' rows' (total'.or total) := by
  cases total' <;> rfl

theorem Progressed.refl (r : ExportRecord) : r.Progressed r := ⟨r.updatedAt, r.rowsProcessed, none, rfl⟩

theorem Progressed.trans (first : r.Progressed r') (second : r'.Progressed r'') : r.Progressed r'' := by
  obtain ⟨now, rows, total, rfl⟩ := first
  obtain ⟨now', rows', total', rfl⟩ := second
  exact ⟨now', rows', total'.or total, progressed_progressed now rows total now' rows' total'⟩

theorem Progressed.progressed (progressed : r.Progressed r') (now rows : Int) (total : Option Int) :
    r.Progressed (r'.progressed now rows total) :=
  progressed.trans ⟨now, rows, total, rfl⟩

theorem Progressed.id_eq (progressed : r.Progressed r') : r'.id = r.id := by
  obtain ⟨_, _, _, rfl⟩ := progressed
  rfl

theorem Progressed.status_eq (progressed : r.Progressed r') : r'.status = r.status := by
  obtain ⟨_, _, _, rfl⟩ := progressed
  rfl

theorem Progressed.readable (progressed : r.Progressed r') (readable : r.Readable) : r'.Readable := by
  obtain ⟨_, _, _, rfl⟩ := progressed
  exact readable

theorem Progressed.jobId_eq (progressed : r.Progressed r') : r'.jobId = r.jobId := by
  obtain ⟨_, _, _, rfl⟩ := progressed
  rfl

theorem Progressed.queryBindings_eq (progressed : r.Progressed r') : r'.queryBindings = r.queryBindings := by
  obtain ⟨_, _, _, rfl⟩ := progressed
  rfl

end ExportRecord

/-! ## Requests on the record of a run -/

namespace Stores

variable {s : RecordStore} {recs : List ExportRecord} {r : ExportRecord}

/-- A change of status on the record of `r`'s id, standing as `r`: it applies
to `r` or changes nothing. -/
theorem changeStatus_withRecord (hs : Stores s (withRecord recs r)) (held : ∃ q ∈ recs, q.id = r.id)
    (c : StatusChange) :
    ∃ s', s.changeStatus r.id c = (s', .ok (c.appliesTo r.id r)) ∧
      Stores s' (withRecord recs (if c.appliesTo r.id r then r.changed s.clock c else r)) ∧ s'.clock = s.clock := by
  obtain ⟨s', request, stores, clock⟩ := hs.changeStatus_spec r.id c
  -- only `r` has the id, so only `r` may apply
  have others : ∀ q, q.id ≠ r.id → c.appliesTo r.id q = false := by
    intro q other
    simp [StatusChange.appliesTo, other]
  have any : (withRecord recs r).any (c.appliesTo r.id) = c.appliesTo r.id r := by
    cases applies : c.appliesTo r.id r with
    | true => exact List.any_eq_true.mpr ⟨r, mem_withRecord held, applies⟩
    | false =>
      refine List.any_eq_false.mpr fun q mem => ?_
      rcases mem_withRecord_iff mem with rfl | ⟨-, other⟩
      · simp [applies]
      · simp [others q other]
  have changed : ((withRecord recs r).map fun q => if c.appliesTo r.id q then q.changed s.clock c else q) =
      withRecord recs (if c.appliesTo r.id r then r.changed s.clock c else r) :=
    map_withRecord (r := r) (g := fun q => if c.appliesTo r.id q then q.changed s.clock c else q) (by split <;> simp)
      fun q other => by simp [others q other]
  rw [any] at request
  rw [changed] at stores
  exact ⟨s', request, stores, clock⟩

/-- Progress stored on the records of `r`'s id is progress stored on `r`. -/
theorem map_progressed_withRecord (now rows : Int) (total : Option Int) :
    ((withRecord recs r).map fun q => if q.id = r.id then q.progressed now rows total else q) =
      withRecord recs (r.progressed now rows total) := by
  rw [map_withRecord (r := r) (g := fun q => if q.id = r.id then q.progressed now rows total else q)
    (by simp [ExportRecord.progressed]) fun q other => by simp [other], if_pos rfl]

/-- Storing progress on the record of `r`'s id, standing as `r`: whether the
table takes it or not, the record stands with progress stored. -/
theorem updateProgress_withRecord (hs : Stores s (withRecord recs r)) (held : ∃ q ∈ recs, q.id = r.id)
    (rows : Int) (total : Option Int) :
    ∃ r', r.Progressed r' ∧ Stores (s.updateProgress r.id rows total).1 (withRecord recs r') := by
  obtain ⟨s', spec, -⟩ := hs.updateProgress_spec r.id rows total
  rw [find?_withRecord held] at spec
  dsimp only at spec
  split at spec
  · obtain ⟨request, stores⟩ := spec
    rw [map_progressed_withRecord] at stores
    exact ⟨_, ⟨_, _, _, rfl⟩, by rw [request]; exact stores⟩
  · obtain ⟨⟨err, request⟩, stores⟩ := spec
    exact ⟨r, .refl r, by rw [request]; exact stores⟩

/-- Storing a count and a total that are not negative on the record of `r`'s
id, standing as `r`, is taken, and stores them on `r`. -/
theorem updateProgress_granted (hs : Stores s (withRecord recs r)) (held : ∃ q ∈ recs, q.id = r.id)
    (rows : Int) (total : Option Int) (counted : 0 ≤ rows) (bounded : (total.or r.totalRows).all (0 ≤ ·) = true) :
    ∃ s', s.updateProgress r.id rows total = (s', .ok true) ∧
      Stores s' (withRecord recs (r.progressed s.clock rows total)) := by
  obtain ⟨s', spec, -⟩ := hs.updateProgress_spec r.id rows total
  rw [find?_withRecord held] at spec
  dsimp only at spec
  rw [if_pos ⟨counted, bounded⟩, map_progressed_withRecord] at spec
  exact ⟨s', spec⟩

end Stores

/-! ## Reports that only read -/

namespace Query.QuerySource

/-- A source that only reads the records: a fetch from a store of records
leaves a store of the same records. -/
def ReadsOnly (src : QuerySource) : Prop :=
  ∀ s recs, Stores s recs → (∀ size offset, Stores (src.fetchChunk s size offset).1 recs) ∧
    Stores (src.fetchAll s).1 recs

/-- Rows held in memory are fetched without the store. -/
theorem readsOnly_memory (q : MemoryQuery) (failAt : Option Nat) : (memory q failAt).ReadsOnly := by
  intro s recs hs
  refine ⟨fun size offset => ?_, ?_⟩
  · cases failAt with
    | none => exact hs
    | some limit =>
      show Stores (if limit ≤ offset then (s, _) else (s, _)).1 recs
      split <;> exact hs
  · show Stores (if failAt.isSome then (s, _) else (s, _)).1 recs
    split <;> exact hs

end Query.QuerySource

namespace Exporter

variable {recs : List ExportRecord} {r : ExportRecord} {src : QuerySource}

/-- Every report the registry rebuilds draws its rows from a source that only
reads the records. -/
def ReportsRead (e : Exporter) : Prop :=
  ∀ desc definition src, e.registry.reconstruct desc = .ok definition → definition.buildQuery = .ok src →
    src.ReadsOnly

/-! ## Streams -/

/-- The records while a run of the record of `r`'s id goes on: those of
`recs`, the run's record standing as `r` with progress stored. -/
def Streaming (recs : List ExportRecord) (r : ExportRecord) (e : Exporter) : Prop :=
  ∃ r', r.Progressed r' ∧ Stores e.store (withRecord recs r')

theorem exec_fetchChunk (src : QuerySource) (size offset : Nat) (e : Exporter) :
    (fetchChunk src size offset).exec e =
      ((src.fetchChunk e.store size offset).2.mapError .query, { e with store := (src.fetchChunk e.store size offset).1 }) := by
  unfold fetchChunk
  rcases h : src.fetchChunk e.store size offset with ⟨s, res⟩
  simp only [exec_get_bind, h, exec_set_bind, exec_fromExcept]

theorem exec_fetchAll (src : QuerySource) (e : Exporter) :
    (fetchAll src).exec e = ((src.fetchAll e.store).2.mapError .query, { e with store := (src.fetchAll e.store).1 }) := by
  unfold fetchAll
  rcases h : src.fetchAll e.store with ⟨s, res⟩
  simp only [exec_get_bind, h, exec_set_bind, exec_fromExcept]

namespace Streaming

variable {e : Exporter}

theorem fetchChunk (streaming : Streaming recs r e) (reads : src.ReadsOnly) (size offset : Nat) :
    Streaming recs r { e with store := (src.fetchChunk e.store size offset).1 } := by
  obtain ⟨r', progressed, hs⟩ := streaming
  exact ⟨r', progressed, ((reads _ _ hs).1 size offset)⟩

theorem fetchAll (streaming : Streaming recs r e) (reads : src.ReadsOnly) :
    Streaming recs r { e with store := (src.fetchAll e.store).1 } := by
  obtain ⟨r', progressed, hs⟩ := streaming
  exact ⟨r', progressed, (reads _ _ hs).2⟩

theorem updateProgress (streaming : Streaming recs r e) (held : ∃ q ∈ recs, q.id = r.id) (rows : Int)
    (total : Option Int) : Streaming recs r { e with store := (e.store.updateProgress r.id rows total).1 } := by
  obtain ⟨r', progressed, hs⟩ := streaming
  have own := progressed.id_eq
  obtain ⟨r'', further, hs'⟩ := hs.updateProgress_withRecord (by rw [own]; exact held) rows total
  rw [own] at hs'
  exact ⟨r'', progressed.trans further, hs'⟩

end Streaming

section Stream

variable (reads : src.ReadsOnly) (held : ∃ q ∈ recs, q.id = r.id)

include reads held

/-- A chunked stream changes only the store, where it stores at most progress
on its record; the sink it gives has rows written after the ones it had. -/
theorem exec_streamChunks (size : Nat) : ∀ (fuel offset : Nat) (sink : CsvSink) (e : Exporter),
    Streaming recs r e →
      ((streamChunks r.id src size fuel offset sink).exec e).2 =
          { e with store := ((streamChunks r.id src size fuel offset sink).exec e).2.store } ∧
        Streaming recs r ((streamChunks r.id src size fuel offset sink).exec e).2 ∧
        ∀ sink', ((streamChunks r.id src size fuel offset sink).exec e).1 = .ok sink' →
          ∃ rows : List Row, sink' = rows.foldl CsvSink.writeRow sink
  | 0, _, sink, e, streaming => ⟨rfl, streaming, fun sink' given => ⟨[], by cases given; rfl⟩⟩
  | fuel + 1, offset, sink, e, streaming => by
    have fetched := streaming.fetchChunk reads size offset
    rw [streamChunks]
    cases window : (src.fetchChunk e.store size offset).2 with
    | error err =>
      have failed : (Exporter.fetchChunk src size offset).exec e =
          (.error (.query err), { e with store := (src.fetchChunk e.store size offset).1 }) := by
        rw [exec_fetchChunk, window]
        rfl
      rw [exec_bind_error failed]
      exact ⟨rfl, fetched, fun _ given => nomatch given⟩
    | ok batch =>
      have got : (Exporter.fetchChunk src size offset).exec e =
          (.ok batch, { e with store := (src.fetchChunk e.store size offset).1 }) := by
        rw [exec_fetchChunk, window]
        rfl
      rw [exec_bind_ok got]
      by_cases empty : batch.isEmpty
      · -- an empty window ends the stream
        rw [if_pos empty]
        exact ⟨rfl, fetched, fun sink' given => ⟨[], by cases given; rfl⟩⟩
      · rw [if_neg empty]
        -- the window's rows go to the sink and the count is stored
        set e₁ : Exporter := { e with store := (src.fetchChunk e.store size offset).1 }
        have stored := fetched.updateProgress held (↑(offset + batch.length)) none
        cases progress : (e₁.store.updateProgress r.id (↑(offset + batch.length)) none).2 with
        | error err =>
          rw [exec_bind_error (by rw [exec_withStore, progress]; rfl)]
          exact ⟨rfl, stored, fun _ given => nomatch given⟩
        | ok found =>
          rw [exec_bind_ok (by rw [exec_withStore, progress]; rfl)]
          by_cases short : batch.length < size
          · rw [if_pos short]
            exact ⟨rfl, stored, fun sink' given => ⟨batch, by cases given; rfl⟩⟩
          · rw [if_neg short]
            obtain ⟨frame, streaming', written⟩ := exec_streamChunks size fuel (offset + batch.length)
              (batch.foldl CsvSink.writeRow sink) _ stored
            refine ⟨frame.trans rfl, streaming', fun sink' given => ?_⟩
            obtain ⟨rows, rfl⟩ := written sink' given
            exact ⟨batch ++ rows, by rw [List.foldl_append]⟩

/-- A bulk stream changes only the store, where it stores at most progress on
its record; the sink it gives has rows written after the ones it had. -/
theorem exec_streamAll (sink : CsvSink) (e : Exporter) (streaming : Streaming recs r e) :
    ((streamAll r.id src sink).exec e).2 = { e with store := ((streamAll r.id src sink).exec e).2.store } ∧
      Streaming recs r ((streamAll r.id src sink).exec e).2 ∧
      ∀ sink', ((streamAll r.id src sink).exec e).1 = .ok sink' →
        ∃ rows : List Row, sink' = rows.foldl CsvSink.writeRow sink := by
  have fetched := streaming.fetchAll reads
  unfold streamAll
  cases answer : (src.fetchAll e.store).2 with
  | error err =>
    have failed : (Exporter.fetchAll src).exec e = (.error (.query err), { e with store := (src.fetchAll e.store).1 }) := by
      rw [exec_fetchAll, answer]
      rfl
    rw [exec_bind_error failed]
    exact ⟨rfl, fetched, fun _ given => nomatch given⟩
  | ok rows =>
    have got : (Exporter.fetchAll src).exec e = (.ok rows, { e with store := (src.fetchAll e.store).1 }) := by
      rw [exec_fetchAll, answer]
      rfl
    rw [exec_bind_ok got]
    -- the total is stored first, then the count
    set e₁ : Exporter := { e with store := (src.fetchAll e.store).1 }
    have first := fetched.updateProgress held 0 (some ↑rows.length)
    cases totalled : (e₁.store.updateProgress r.id 0 (some ↑rows.length)).2 with
    | error err =>
      rw [exec_bind_error (by rw [exec_withStore, totalled]; rfl)]
      exact ⟨rfl, first, fun _ given => nomatch given⟩
    | ok found =>
      rw [exec_bind_ok (by rw [exec_withStore, totalled]; rfl)]
      set e₂ : Exporter := { e₁ with store := (e₁.store.updateProgress r.id 0 (some ↑rows.length)).1 }
      have second := first.updateProgress held (↑rows.length) (some ↑rows.length)
      cases counted : (e₂.store.updateProgress r.id ↑rows.length (some ↑rows.length)).2 with
      | error err =>
        rw [exec_bind_error (by rw [exec_withStore, counted]; rfl)]
        exact ⟨rfl, second, fun _ given => nomatch given⟩
      | ok found' =>
        rw [exec_bind_ok (by rw [exec_withStore, counted]; rfl)]
        exact ⟨rfl, second, fun sink' given => ⟨rows, by cases given; rfl⟩⟩

end Stream

/-- Streaming every row of a memory source that does not fail succeeds: the
rows it matches go to the sink, and the record stands with progress stored. -/
theorem exec_streamAll_memory {e : Exporter} (hs : Stores e.store (withRecord recs r))
    (held : ∃ q ∈ recs, q.id = r.id) (q : MemoryQuery) (sink : CsvSink) :
    ∃ s' r', (streamAll r.id (.memory q none) sink).exec e =
        (.ok (q.matching.foldl CsvSink.writeRow sink), { e with store := s' }) ∧
      r.Progressed r' ∧ Stores s' (withRecord recs r') := by
  have fetched : (fetchAll (.memory q none)).exec e = (.ok q.matching, e) := by
    rw [exec_fetchAll]
    rfl
  -- the total is stored first, then the count: neither is negative
  obtain ⟨s₁, first, hs₁⟩ := hs.updateProgress_granted held 0 (some q.matching.length) (le_refl 0) (by simp)
  obtain ⟨s₂, second, hs₂⟩ := hs₁.updateProgress_granted held q.matching.length (some q.matching.length)
    (Int.natCast_nonneg q.matching.length) (by simp [ExportRecord.progressed])
  unfold streamAll
  rw [exec_bind_ok fetched, exec_bind_ok (exec_withStore_ok (·.updateProgress r.id 0 (some q.matching.length)) first),
    exec_bind_ok (exec_withStore_ok (e := { e with store := s₁ })
      (·.updateProgress r.id q.matching.length (some q.matching.length)) second)]
  exact ⟨s₂, _, rfl, ((ExportRecord.Progressed.refl r).progressed _ _ _).progressed _ _ _, hs₂⟩

/-! ## Staging and publishing -/

theorem exec_rowBound (src : QuerySource) (e : Exporter) : ∃ n, (rowBound src).exec e = (.ok n, e) := by
  unfold rowBound
  cases src <;> exact ⟨_, rfl⟩

/-- Making the staging directory makes directories only. -/
theorem exec_openStaging (e : Exporter) :
    ∃ res t, openStaging.exec e = (res, { e with files := t }) ∧ (∀ q, t.fileAt q = e.files.fileAt q) ∧
      (e.files.WellFormed → t.WellFormed) := by
  unfold openStaging
  rw [exec_get_bind]
  cases made : e.files.createDirAll e.staging with
  | ok t => exact ⟨.ok (), t, rfl, (FileTree.makesDirsAlong_createDirAll made).fileAt, fun wf => wf.createDirAll made⟩
  | error err => exact ⟨.error (.io err.message), e.files, rfl, fun _ => rfl, id⟩

/-- Staged names differ by their number. -/
theorem stagedName_inj {k j : Nat} (same : stagedName k = stagedName j) : k = j :=
  toString_injective ((String.append_right_inj _).mp same)

/-- Staging writes the text as a file at a path where nothing stood before,
on the way to none of the paths to avoid, and changes no other file; or it
changes no file at all. -/
theorem exec_stage (avoid : List TreePath) (text : String) (e : Exporter) :
    ∃ res t, (stage avoid text).exec e = (res, { e with issued := e.issued + 1, files := t }) ∧
      (e.files.WellFormed → t.WellFormed) ∧ (∀ err, res = .error err → t = e.files) ∧
      ∀ path, res = .ok path → (∀ q, path <+: q → e.files.node? q = none) ∧ (∀ q ∈ avoid, ¬ path <+: q) ∧
        t.node? path = some (.file text) ∧ ∀ q, q ≠ path → t.fileAt q = e.files.fileAt q := by
  unfold stage
  rw [exec_get_bind, exec_set_bind]
  cases made : e.files.createDirAll e.staging with
  | error err =>
    refine ⟨.error (.io err.message), e.files, ?_, id, fun _ _ => rfl, fun _ given => nomatch given⟩
    simp only [Except.bind]
    rfl
  | ok t₁ =>
  have along := FileTree.makesDirsAlong_createDirAll made
  cases wrote : t₁.writeFile (e.staging ++ [t₁.freshName e.staging stagedName avoid (e.issued + 1)]) text with
  | error err =>
    refine ⟨.error (.io err.message), e.files, ?_, id, fun _ _ => rfl, fun _ given => nomatch given⟩
    simp only [wrote, Except.bind, Except.map]
    rfl
  | ok t =>
  refine ⟨.ok (e.staging ++ [t₁.freshName e.staging stagedName avoid (e.issued + 1)]), t, ?_,
    fun wf => (wf.createDirAll made).writeFile wrote, fun _ given => (by cases given), fun path given => ?_⟩
  · simp only [wrote, Except.bind, Except.map]
    rfl
  cases given
  refine ⟨fun q below => ?_, fun q held => FileTree.freshName_free (fun _ _ => stagedName_inj) q
    (List.mem_append_right _ held), FileTree.node?_writeFile_self wrote (by simp), fun q other => ?_⟩
  · -- the directories made lie on the way to the staging directory, above the new path
    rcases along q with same | ⟨up, -, -⟩
    · rw [← same]
      exact FileTree.node?_freshName (fun _ _ => stagedName_inj) below
    · have := below.length_le.trans up.length_le
      simp at this
  · exact (FileTree.fileAt_congr (by rw [FileTree.eq_put_of_writeFile wrote]; exact FileTree.node?_put _ other)).trans
      (along.fileAt q)

/-- Making the staging directory succeeds when the tree allows it. -/
theorem exec_openStaging_ok {e : Exporter} {t : FileTree} (made : e.files.createDirAll e.staging = .ok t) :
    openStaging.exec e = (.ok (), { e with files := t }) := by
  unfold openStaging
  rw [exec_get_bind, made]
  rfl

/-- Staging succeeds, at the fresh path of the tree with the staging
directory made, when the file can be written there. -/
theorem exec_stage_ok {avoid : List TreePath} {text : String} {e : Exporter} {u t : FileTree} {p : TreePath}
    (made : e.files.createDirAll e.staging = .ok u)
    (named : e.staging ++ [u.freshName e.staging stagedName avoid (e.issued + 1)] = p)
    (wrote : u.writeFile p text = .ok t) :
    (stage avoid text).exec e = (.ok p, { e with issued := e.issued + 1, files := t }) := by
  unfold stage
  rw [exec_get_bind, exec_set_bind]
  subst named
  simp only [made, wrote, Except.bind, Except.map]
  rfl

theorem exec_withFiles {α : Type} (f : FileTree → Except StorageError (FileTree × α)) (e : Exporter) :
    (withFiles f).exec e = match f e.files with
      | .ok (t, a) => (.ok a, { e with files := t })
      | .error err => (.error (.storage err), e) := by
  unfold withFiles
  rw [exec_get_bind]
  cases f e.files <;> rfl

/-- Erasing a file of a well-formed tree from a tree that agrees with it at
`q` keeps what stands at `q`: below the file nothing stood. -/
theorem fileAt_erase_file {t t₁ : FileTree} {p q : TreePath} {c : String} (wf : t.WellFormed)
    (file : t.node? p = some (.file c)) (same : t₁.fileAt q = t.fileAt q) (other : q ≠ p) :
    (t₁.erase p).fileAt q = t.fileAt q := by
  by_cases root : q = []
  · subst root
    rfl
  by_cases below : p <+: q
  · rw [FileTree.fileAt, FileTree.node?_erase_below below root, FileTree.fileAt, wf.below_file file below other]
  · rw [← same]
    exact FileTree.fileAt_congr (by rw [FileTree.node?_erase root, if_neg below])

/-- What publishing a staged file of `text` leaves in the tree `t'`, from the
tree `t`: a well-formed tree without the staged file. A failure changes no
other file; a success leaves the text at the descriptor's location and
changes no other file. -/
structure Published (disk : FilesystemDisk) (desc : ReportDescriptor) (staged : TreePath) (text : String)
    (t : FileTree) (res : Except ExportError Unit) (t' : FileTree) : Prop where
  wellFormed : t'.WellFormed
  cleared : t'.fileAt staged = none
  kept : ∀ err, res = .error err → ∀ q, q ≠ staged → t'.fileAt q = t.fileAt q
  placed : res = .ok () → ∃ dest, disk.filePath desc.outputPath = .ok dest ∧ t'.fileAt dest = some text ∧
    ∀ q, q ≠ dest → q ≠ staged → t'.fileAt q = t.fileAt q

section Publish

variable {disk : FilesystemDisk} {desc : ReportDescriptor} {staged : TreePath} {text : String} {t u : FileTree}

theorem fileAt_erase_self (named : staged ≠ []) (u : FileTree) : (u.erase staged).fileAt staged = none := by
  rw [FileTree.fileAt, FileTree.node?_erase_below (List.prefix_refl _) named]

/-- A move that failed made directories at most; the staged file is erased. -/
theorem published_failed (wf : t.WellFormed) (file : t.node? staged = some (.file text)) (wfu : u.WellFormed)
    (same : ∀ q, u.fileAt q = t.fileAt q) (err : ExportError) :
    Published disk desc staged text t (.error err) (u.erase staged) where
  wellFormed := wfu.erase staged
  cleared := fileAt_erase_self (fun empty => by simp [empty, FileTree.node?_nil] at file) u
  kept := fun _ _ q other => fileAt_erase_file wf file (same q) other
  placed := fun given => nomatch given

/-- A move that succeeded put the staged text at the destination. -/
theorem published_moved {t₂ : FileTree} {shared : Bool} (wf : t.WellFormed) (file : t.node? staged = some (.file text))
    (wfu : u.WellFormed) (fileu : u.node? staged = some (.file text)) (same : ∀ q, u.fileAt q = t.fileAt q)
    (moved : disk.putFile u desc.outputPath staged shared = .ok t₂)
    (off : ∀ dest, disk.filePath desc.outputPath = .ok dest → ¬ staged <+: dest) :
    Published disk desc staged text t (.ok ()) (t₂.erase staged) where
  wellFormed := (FilesystemDisk.WellFormed.putFile wfu moved fileu).erase staged
  cleared := fileAt_erase_self (fun empty => by simp [empty, FileTree.node?_nil] at file) t₂
  kept := fun _ given => nomatch given
  placed := fun _ => by
    obtain ⟨dest, -, found, -⟩ := FilesystemDisk.putFile_cases moved
    obtain ⟨parts, full, rfl⟩ := FilesystemDisk.filePath_below disk desc.outputPath found
    have root : disk.root ++ parts ≠ [] := by simp [full]
    have landed := FilesystemDisk.node?_putFile_dest moved found fileu (off _ found)
    refine ⟨_, found, ?_, fun q other aside => ?_⟩
    · rw [FileTree.fileAt, FileTree.node?_erase root, if_neg (off _ found), landed]
    · exact fileAt_erase_file wf file
        ((FilesystemDisk.fileAt_putFile_other wfu moved found fileu other aside).trans (same q)) aside

/-- Publishing a staged file that lies on the way to no destination of the
descriptor. -/
theorem exec_publish (e : Exporter) (wf : e.files.WellFormed) (file : e.files.node? staged = some (.file text))
    (off : ∀ dest, disk.filePath desc.outputPath = .ok dest → ¬ staged <+: dest) :
    ∃ res t, (publish disk desc staged).exec e = (res, { e with files := t }) ∧
      Published disk desc staged text e.files res t := by
  unfold publish
  rw [exec_get_bind, exec_bind_ok (exec_attempt _ _), exec_modify_bind, exec_fromExcept]
  cases found : disk.exists? e.files desc.directory with
  | error err =>
    simp only [exec_bind, exec_withFiles, found, Except.map]
    exact ⟨_, _, rfl, published_failed wf file wf (fun _ => rfl) _⟩
  | ok present =>
    have asked : (withFiles fun t => (disk.exists? t desc.directory).map (t, ·)).exec e = (.ok present, e) := by
      rw [exec_withFiles, found]
      rfl
    rw [exec_bind_ok asked]
    -- the move itself, from the tree with the directory made when it was missing
    have move : ∀ u, u.WellFormed → u.node? staged = some (.file text) → (∀ q, u.fileAt q = e.files.fileAt q) →
        ∃ res t, (withFiles fun t => (disk.putFile t desc.outputPath staged e.stagingShared).map (·, ())).exec
            { e with files := u } = (res, { e with files := t }) ∧
          Published disk desc staged text e.files res (t.erase staged) := by
      intro u wfu fileu same
      cases moved : disk.putFile u desc.outputPath staged e.stagingShared with
      | error err => exact ⟨_, u, by rw [exec_withFiles, moved]; rfl, published_failed wf file wfu same _⟩
      | ok t₂ => exact ⟨_, t₂, by rw [exec_withFiles, moved]; rfl, published_moved wf file wfu fileu same moved off⟩
    cases present with
    | true =>
      obtain ⟨res, t, moved, published⟩ := move e.files wf file fun _ => rfl
      have moved' : (withFiles fun t => (disk.putFile t desc.outputPath staged e.stagingShared).map (·, ())).exec e =
          (res, { e with files := t }) := moved
      simp only [↓reduceIte]
      rw [moved']
      exact ⟨_, _, rfl, published⟩
    | false =>
      simp only [Bool.false_eq_true, ↓reduceIte]
      cases made : disk.makeDirectory e.files desc.directory with
      | error err =>
        have refused : (withFiles fun t => (disk.makeDirectory t desc.directory).map (·, ())).exec e =
            (.error (.storage err), e) := by
          rw [exec_withFiles, made]
          rfl
        rw [exec_bind_error refused]
        exact ⟨_, _, rfl, published_failed wf file wf (fun _ => rfl) _⟩
      | ok u =>
        have madeDir : (withFiles fun t => (disk.makeDirectory t desc.directory).map (·, ())).exec e =
            (.ok (), { e with files := u }) := by
          rw [exec_withFiles, made]
          rfl
        obtain ⟨dir, -, created⟩ := except_bind_eq_ok made
        have along := FileTree.makesDirsAlong_createDirAll (liftIo_eq_ok.mp created)
        obtain ⟨res, t, moved, published⟩ := move u (wf.createDirAll (liftIo_eq_ok.mp created))
          (FilesystemDisk.node?_file_createDirAll (liftIo_eq_ok.mp created) file) along.fileAt
        rw [exec_bind_ok madeDir, moved]
        exact ⟨_, _, rfl, published⟩

/-- Publishing succeeds when the directory is there or made and the move
succeeds; the staged file is erased after it. -/
theorem exec_publish_ok {e : Exporter} (present : Bool) {t₂ : FileTree}
    (found : disk.exists? e.files desc.directory = .ok present)
    (made : (if present then .ok e.files else disk.makeDirectory e.files desc.directory) = .ok u)
    (moved : disk.putFile u desc.outputPath staged e.stagingShared = .ok t₂) :
    (publish disk desc staged).exec e = (.ok (), { e with files := t₂.erase staged }) := by
  unfold publish
  rw [exec_get_bind, exec_bind_ok (exec_attempt _ _), exec_modify_bind, exec_fromExcept]
  have asked : (withFiles fun t => (disk.exists? t desc.directory).map (t, ·)).exec e = (.ok present, e) := by
    rw [exec_withFiles, found]
    rfl
  have put : (withFiles fun t => (disk.putFile t desc.outputPath staged e.stagingShared).map (·, ())).exec
      { e with files := u } = (.ok (), { e with files := t₂ }) := by
    rw [exec_withFiles]
    simp only [moved]
    rfl
  rw [exec_bind_ok asked]
  cases present with
  | true =>
    simp only [↓reduceIte] at made ⊢
    cases made
    rw [show (withFiles fun t => (disk.putFile t desc.outputPath staged e.stagingShared).map (·, ())).exec e =
      (.ok (), { e with files := t₂ }) from put]
  | false =>
    simp only [Bool.false_eq_true, ↓reduceIte] at made ⊢
    have madeDir : (withFiles fun t => (disk.makeDirectory t desc.directory).map (·, ())).exec e =
        (.ok (), { e with files := u }) := by
      rw [exec_withFiles, made]
      rfl
    rw [exec_bind_ok madeDir, put]

end Publish

/-! ## Executions -/

/-- The CSV text of rows the report of `record` gave, under the rebuilt
definition's headers, stands in `t` at the location the record's stored
descriptor names on the descriptor's disk; every other path holds in `t` what
it held in `t₀`. -/
def Placed (e : Exporter) (record : ExportRecord) (t₀ t : FileTree) : Prop :=
  ∃ desc definition disk dest, ∃ rows : List Row, storedDescriptor record = .ok desc ∧
    e.registry.reconstruct desc = .ok definition ∧ e.storage.disk desc.disk = .ok disk ∧
    disk.filePath desc.outputPath = .ok dest ∧
    t.fileAt dest = some (rows.foldl CsvSink.writeRow (CsvSink.create definition.headers)).text ∧
    ∀ q, q ≠ dest → t.fileAt q = t₀.fileAt q

/-- The location a record's stored descriptor names on the descriptor's disk,
where an execution places its CSV. -/
def destination (e : Exporter) (record : ExportRecord) : Option TreePath :=
  (storedDescriptor record).toOption.bind fun desc =>
    (e.storage.disk desc.disk).toOption.bind fun disk => (disk.filePath desc.outputPath).toOption

/-- A placement changes no file off the record's destination. -/
theorem Placed.off {e : Exporter} {record : ExportRecord} {t₀ t : FileTree} (placed : Placed e record t₀ t)
    {q : TreePath} (off : e.destination record ≠ some q) : t.fileAt q = t₀.fileAt q := by
  obtain ⟨desc, definition, disk, dest, rows, described, -, located, found, -, others⟩ := placed
  refine others q fun same => off ?_
  simp [destination, described, located, found, same, Except.toOption]

/-- What an execution of `record` leaves from `e`, the run's record standing
as `r` among `recs`: only the store, the files and the count of issued names
change; the run's record has at most progress stored; the tree stays well
formed. A failure changes no file; a success places the CSV text as `Placed`
says. The staged file was written where nothing stood, so it is gone in
either case. -/
structure Executed (recs : List ExportRecord) (r record : ExportRecord) (e : Exporter)
    (res : Except ExportError Nat) (e' : Exporter) : Prop where
  frame : e' = { e with store := e'.store, files := e'.files, issued := e'.issued }
  streaming : Streaming recs r e'
  wellFormed : e'.files.WellFormed
  kept : ∀ err, res = .error err → ∀ q, e'.files.fileAt q = e.files.fileAt q
  placed : ∀ n, res = .ok n → Placed e record e.files e'.files

section Execute

variable {e : Exporter} {record : ExportRecord}

/-- A failure that changed no file. -/
theorem Executed.failed (e' : Exporter) (frame : e' = { e with store := e'.store, files := e'.files, issued := e'.issued })
    (streaming : Streaming recs r e') (wf : e'.files.WellFormed) (kept : ∀ q, e'.files.fileAt q = e.files.fileAt q)
    (err : ExportError) : Executed recs r record e (.error err) e' where
  frame := frame
  streaming := streaming
  wellFormed := wf
  kept := fun _ _ => kept
  placed := fun _ given => nomatch given

/-- A failure before anything changed. -/
theorem Executed.unchanged (streaming : Streaming recs r e) (wf : e.files.WellFormed) (err : ExportError) :
    Executed recs r record e (.error err) e :=
  .failed e rfl streaming wf (fun _ => rfl) err

/-- An execution stores at most progress on its record, stages one file and
moves it onto the descriptor's disk, as `Executed` says. -/
theorem exec_execute (reads : e.ReportsRead) (wf : e.files.WellFormed)
    (streaming : Streaming recs r e) (held : ∃ q ∈ recs, q.id = r.id) (own : record.id = r.id) :
    Executed recs r record e ((execute record).exec e).1 ((execute record).exec e).2 := by
  unfold execute
  rw [exec_get_bind]
  -- the descriptor, the definition, its source and the disk, each of which may fail first
  cases described : storedDescriptor record with
  | error err =>
    rw [exec_bind_error (exec_fromExcept _ e)]
    exact .unchanged streaming wf err
  | ok desc =>
  rw [exec_bind_ok (exec_fromExcept _ e)]
  cases rebuilt : e.registry.reconstruct desc with
  | error err =>
    simp only [Except.mapError]
    rw [exec_bind_error (exec_fromExcept _ e)]
    exact .unchanged streaming wf _
  | ok definition =>
  simp only [Except.mapError]
  rw [exec_bind_ok (exec_fromExcept _ e)]
  cases built : definition.buildQuery with
  | error err =>
    rw [exec_bind_error (exec_fromExcept _ e)]
    exact .unchanged streaming wf _
  | ok src =>
  rw [exec_bind_ok (exec_fromExcept _ e)]
  cases located : e.storage.disk desc.disk with
  | error err =>
    rw [exec_bind_error (exec_fromExcept _ e)]
    exact .unchanged streaming wf _
  | ok disk =>
  rw [exec_bind_ok (exec_fromExcept _ e)]
  have reading : src.ReadsOnly := reads desc definition src rebuilt built
  rw [own]
  -- the staging directory is made: directories only
  obtain ⟨opened, t₁, ran₁, same₁, wf₁⟩ := exec_openStaging e
  have wf₁ := wf₁ wf
  cases opened with
  | error err =>
    rw [exec_bind_error ran₁]
    exact .failed { e with files := t₁ } rfl streaming wf₁ same₁ err
  | ok u =>
  rw [exec_bind_ok ran₁]
  -- staging the text written and publishing it, from the state a stream leaves
  have finish : ∀ (s₂ : RecordStore) (rows : List Row),
      Streaming recs r { e with store := s₂, files := t₁ } →
      Executed recs r record e
        ((do
            let staged ← stage (disk.filePath desc.outputPath).toOption.toList
              (rows.foldl CsvSink.writeRow (CsvSink.create definition.headers)).text
            publish disk desc staged
            pure (rows.foldl CsvSink.writeRow (CsvSink.create definition.headers)).rows :
          ExportM Nat).exec { e with store := s₂, files := t₁ }).1
        ((do
            let staged ← stage (disk.filePath desc.outputPath).toOption.toList
              (rows.foldl CsvSink.writeRow (CsvSink.create definition.headers)).text
            publish disk desc staged
            pure (rows.foldl CsvSink.writeRow (CsvSink.create definition.headers)).rows :
          ExportM Nat).exec { e with store := s₂, files := t₁ }).2 := by
    intro s₂ rows streaming₂
    obtain ⟨staging, t₃, ran₃, wf₃, failed₃, placed₃⟩ :=
      exec_stage (disk.filePath desc.outputPath).toOption.toList
        (rows.foldl CsvSink.writeRow (CsvSink.create definition.headers)).text { e with store := s₂, files := t₁ }
    have wf₃ := wf₃ wf₁
    cases staging with
    | error err =>
      rw [exec_bind_error ran₃]
      obtain rfl : t₁ = t₃ := (failed₃ err rfl).symm
      exact .failed { e with store := s₂, files := t₁, issued := e.issued + 1 } rfl streaming₂ wf₁ same₁ err
    | ok path =>
    obtain ⟨fresh, off, file₃, same₃⟩ := placed₃ path rfl
    rw [exec_bind_ok ran₃]
    obtain ⟨published, t₄, ran₄, moved⟩ :=
      exec_publish { e with store := s₂, files := t₃, issued := e.issued + 1 } wf₃ file₃
        fun (dest : TreePath) (found : disk.filePath desc.outputPath = .ok dest) => off dest (by simp [found, Except.toOption])
    -- the staged file was written where no file stood, and publishing clears it again
    have unwritten : e.files.fileAt path = none := by
      rw [← same₁ path, FileTree.fileAt, fresh path (List.prefix_refl _)]
    have gone : t₄.fileAt path = e.files.fileAt path := by rw [moved.cleared, unwritten]
    have before : ∀ q, q ≠ path → t₃.fileAt q = e.files.fileAt q := fun q other =>
      (same₃ q other).trans (same₁ q)
    cases published with
    | error err =>
      rw [exec_bind_error ran₄]
      refine .failed { e with store := s₂, files := t₄, issued := e.issued + 1 } rfl streaming₂ moved.wellFormed
        (fun q => ?_) err
      by_cases staged : q = path
      · exact staged ▸ gone
      · exact (moved.kept err rfl q staged).trans (before q staged)
    | ok u =>
    rw [exec_bind_ok ran₄]
    obtain ⟨dest, found, landed, others⟩ := moved.placed rfl
    refine {
      frame := rfl
      streaming := streaming₂
      wellFormed := moved.wellFormed
      kept := fun _ given => by cases given
      placed := fun _ _ => ⟨desc, definition, disk, dest, rows, described, rebuilt, located, found, landed,
        fun q other => ?_⟩ }
    by_cases staged : q = path
    · exact staged ▸ gone
    · exact (others q other staged).trans (before q staged)
  cases mode : desc.mode with
  | chunked =>
    dsimp only
    obtain ⟨n, bound⟩ := exec_rowBound src { e with files := t₁ }
    rw [exec_bind_ok bound]
    obtain ⟨frame₂, streaming₂, written⟩ := exec_streamChunks reading held (max desc.chunkSize 1) (n + 2) 0
      (CsvSink.create definition.headers) { e with files := t₁ } streaming
    rcases streamed : (streamChunks r.id src (max desc.chunkSize 1) (n + 2) 0 (CsvSink.create definition.headers)).exec
      { e with files := t₁ } with ⟨res₂, e₂⟩
    rw [streamed] at frame₂ streaming₂ written
    dsimp only at frame₂ streaming₂ written
    rw [frame₂] at streaming₂
    cases res₂ with
    | error err =>
      rw [exec_bind_error streamed, frame₂]
      exact .failed { e with store := e₂.store, files := t₁ } rfl streaming₂ wf₁ same₁ err
    | ok sink =>
      rw [exec_bind_ok streamed, frame₂]
      obtain ⟨rows, rfl⟩ := written _ rfl
      exact finish _ rows streaming₂
  | bulk =>
    dsimp only
    obtain ⟨frame₂, streaming₂, written⟩ := exec_streamAll reading held (CsvSink.create definition.headers)
      { e with files := t₁ } streaming
    rcases streamed : (streamAll r.id src (CsvSink.create definition.headers)).exec { e with files := t₁ } with ⟨res₂, e₂⟩
    rw [streamed] at frame₂ streaming₂ written
    dsimp only at frame₂ streaming₂ written
    rw [frame₂] at streaming₂
    cases res₂ with
    | error err =>
      rw [exec_bind_error streamed, frame₂]
      exact .failed { e with store := e₂.store, files := t₁ } rfl streaming₂ wf₁ same₁ err
    | ok sink =>
      rw [exec_bind_ok streamed, frame₂]
      obtain ⟨rows, rfl⟩ := written _ rfl
      exact finish _ rows streaming₂

end Execute

end Exporter

end ReportExport
