import ReportExport.Proofs.Export.Execution

/-!
# How a run ends

A run of a Dispatched record moves it to Processing, executes it, and then
completes it; a failed execution marks the record Failed with the error's
message, and a completion that is refused or fails deletes the file at the
record's path on the record's disk again and leaves the record Failed.

`exec_run_dispatched` follows a run of a Dispatched record through these
branches, with the execution as `Executed` describes it, and concludes
`Ends`: the record ends as some `r'`, every other record as it was; an
execution that fails with `err` ends the run with `err` and the record
Failed with `err`'s message, and changes no file; a run that succeeds gives
the record Completed, with the CSV text at the location its stored
descriptor names; a record that does not end Completed has nothing of the run
at its own path; and off that location no file is new, so no staged file is
left. `run_settles_record_and_file` adds the runs that are refused.

The CSV goes where the descriptor says, which is the record's own path only
while its path column is as created: `moved_record_csv_lands_at_descriptor_path`
runs a record whose path names another file.
-/

namespace ReportExport

open Store Query ExportM

/-! ## Reports held in memory -/

namespace Query.QuerySource

/-- Filters compiled onto rows held in memory leave rows held in memory,
failing where they failed. -/
theorem applyAll_memory {filters : List Filter} :
    ∀ {q : MemoryQuery} {failAt : Option Nat} {src : QuerySource},
      (memory q failAt).applyAll filters = .ok src → ∃ q', src = .memory q' failAt := by
  induction filters with
  | nil =>
    intro q failAt src compiled
    cases compiled
    exact ⟨q, rfl⟩
  | cons f fs ih =>
    intro q failAt src compiled
    unfold applyAll Query.applyAll at compiled
    rw [List.foldlM_cons] at compiled
    cases made : Predicate.ofFilter f with
    | error err =>
      rw [made] at compiled
      cases compiled
    | ok p =>
      cases stepped : q.apply p with
      | error err =>
        simp only [made, stepped, apply, bind, Except.bind, Except.map] at compiled
        cases compiled
      | ok q₁ =>
        simp only [made, stepped, apply, bind, Except.bind, Except.map] at compiled
        exact ih compiled

end Query.QuerySource

namespace ReportRegistry

/-- Only a registry with the table kind builds a table report. -/
theorem mem_of_create_table {r : ReportRegistry} {kind : String} {arguments : Json} {a : TableArgs}
    (created : r.create kind arguments = .ok (.table a)) : "table" ∈ r.kinds := by
  unfold create at created
  split at created
  · cases created
  · next enabled =>
    split at created
    · simpa [contains] using enabled
    · cases read : RowsArgs.read arguments <;> simp [read, Except.map, Except.mapError] at created
    · cases created
    · cases created
    · cases created

end ReportRegistry

namespace Exporter

variable {recs : List ExportRecord} {r : ExportRecord} {e : Exporter}

/-- A registry without the table kind rebuilds only reports whose rows are
held in memory, and such reports only read. -/
theorem reportsRead_of_untabled (untabled : "table" ∉ e.registry.kinds) : e.ReportsRead := by
  intro desc definition src rebuilt built
  obtain ⟨report, created, rfl⟩ : ∃ report, e.registry.create desc.kind desc.arguments = .ok report ∧
      ReportDefinition.restore report desc = definition := by
    unfold ReportRegistry.reconstruct at rebuilt
    cases created : e.registry.create desc.kind desc.arguments with
    | error err =>
      rw [created] at rebuilt
      cases rebuilt
    | ok report =>
      rw [created] at rebuilt
      cases rebuilt
      exact ⟨report, rfl, rfl⟩
  unfold ReportDefinition.buildQuery at built
  obtain ⟨source, queried, compiled⟩ := except_bind_eq_ok built
  -- the rows of the report are held in memory
  obtain ⟨q, failAt, rfl⟩ : ∃ q failAt, source = .memory q failAt := by
    cases report with
    | table a => exact absurd (ReportRegistry.mem_of_create_table created) untabled
    | rows a =>
      cases failing : a.failQuery <;>
        simp [ReportDefinition.restore, Report.query, failing, Except.mapError] at queried
      exact ⟨_, _, queried.symm⟩
    | plain =>
      simp [ReportDefinition.restore, Report.query, Except.mapError] at queried
      exact ⟨_, _, queried.symm⟩
  cases filtered : (QuerySource.memory q failAt).applyAll (ReportDefinition.restore report desc).filters.filters with
  | error err =>
    rw [filtered] at compiled
    cases compiled
  | ok src' =>
    rw [filtered] at compiled
    cases compiled
    obtain ⟨q', rfl⟩ := QuerySource.applyAll_memory filtered
    exact QuerySource.readsOnly_memory q' failAt


/-! ## The steps after the execution -/

section Steps

/-- The record standing as `r` is the one found under its id. -/
theorem find?_withRecord_of_id {id : Int} (present : ∃ q ∈ recs, q.id = id) (own : r.id = id) :
    (withRecord recs r).find? (·.id == id) = some r := by
  subst own
  exact find?_withRecord present

/-- A change applies to a record of its own id exactly when the record's
status may move to the change's target. -/
theorem appliesTo_own (c : StatusChange) (r : ExportRecord) :
    c.appliesTo r.id r = r.status.canTransitionTo c.target := by
  simp [StatusChange.appliesTo]

/-- Marking a record Failed always goes on: a refusal or a failure of the
store is only noted. -/
theorem exec_recordFailure_ok (id : Int) (message : String) (e : Exporter) :
    (recordFailure id message).exec e = (.ok (), ((withStore (·.markFailed id message)).exec e).2) := by
  unfold recordFailure
  rw [exec_bind_ok (exec_attempt _ _)]
  rfl

/-- Marking the run's record Failed, where it stands Processing as `r`. -/
theorem exec_recordFailure (hs : Stores e.store (withRecord recs r)) (held : ∃ q ∈ recs, q.id = r.id)
    (processing : r.status = .processing) (message : String) :
    ∃ s', (recordFailure r.id message).exec e = (.ok (), { e with store := s' }) ∧
      Stores s' (withRecord recs (r.changed e.store.clock (.fail message))) := by
  obtain ⟨s', request, stores, -⟩ := hs.changeStatus_withRecord held (.fail message)
  have applies : (StatusChange.fail message).appliesTo r.id r = true := by
    rw [appliesTo_own, processing]
    rfl
  rw [applies, if_pos rfl] at stores
  refine ⟨s', ?_, stores⟩
  rw [exec_recordFailure_ok, exec_withStore_ok (·.markFailed r.id message) request]

/-- Completing a Processing record with no fault set up is granted. -/
theorem exec_complete_granted (hs : Stores e.store (withRecord recs r)) (held : ∃ q ∈ recs, q.id = r.id)
    (processing : r.status = .processing) (fault : e.completionFault = none) :
    ∃ s', (complete r.id).exec e = (.ok true, { e with store := s' }) ∧
      Stores s' (withRecord recs (r.changed e.store.clock .complete)) := by
  obtain ⟨s', request, stores, -⟩ := hs.changeStatus_withRecord held .complete
  have applies : StatusChange.complete.appliesTo r.id r = true := by
    rw [appliesTo_own, processing]
    rfl
  rw [applies, if_pos rfl] at stores
  rw [applies] at request
  refine ⟨s', ?_, stores⟩
  unfold complete
  rw [exec_get_bind]
  conv_lhs => rw [fault]
  exact exec_withStore_ok (·.markCompleted r.id) request

/-- A refused completion: the record is cancelled first, so the completion
finds it Failed and is refused. -/
theorem exec_complete_refused (hs : Stores e.store (withRecord recs r)) (held : ∃ q ∈ recs, q.id = r.id)
    (processing : r.status = .processing) (fault : e.completionFault = some .refused) :
    ∃ s', (complete r.id).exec e = (.ok false, { e with store := s' }) ∧
      Stores s' (withRecord recs (r.changed e.store.clock (.fail "cancelled"))) := by
  obtain ⟨s₁, cancelled, stores₁, -⟩ := hs.changeStatus_withRecord held (.fail "cancelled")
  have applies : (StatusChange.fail "cancelled").appliesTo r.id r = true := by
    rw [appliesTo_own, processing]
    rfl
  rw [applies, if_pos rfl] at stores₁
  rw [applies] at cancelled
  -- the cancelled record is Failed, which Completed cannot follow
  have held₁ : ∃ q ∈ recs, q.id = (r.changed e.store.clock (.fail "cancelled")).id := by simpa using held
  obtain ⟨s₂, refused, stores₂, -⟩ := stores₁.changeStatus_withRecord held₁ .complete
  have stays : StatusChange.complete.appliesTo (r.changed e.store.clock (.fail "cancelled")).id
      (r.changed e.store.clock (.fail "cancelled")) = false := by
    rw [appliesTo_own]
    rfl
  rw [stays, if_neg Bool.false_ne_true] at stores₂
  rw [stays, ExportRecord.id_changed] at refused
  refine ⟨s₂, ?_, stores₂⟩
  unfold complete
  rw [exec_get_bind]
  conv_lhs => rw [fault]
  rw [exec_bind_ok (exec_withStore_ok (·.markFailed r.id "cancelled") cancelled)]
  exact exec_withStore_ok (e := { e with store := s₁ }) (·.markCompleted r.id) refused

/-- A completion that fails changes nothing. -/
theorem exec_complete_failed {id : Int} {message : String} (fault : e.completionFault = some (.failed message)) :
    (complete id).exec e = (.error (.data (.io message)), e) := by
  unfold complete
  rw [exec_get_bind]
  conv_lhs => rw [fault]
  rfl

/-- Deleting the file at a record's path: only removes, and in a well-formed
tree leaves nothing at the record's location, whether the deletion succeeded
or not. -/
theorem exec_discardArtifact (record : ExportRecord) (wf : e.files.WellFormed) :
    ∃ t, (discardArtifact record).exec e = (.ok (), { e with files := t }) ∧ t.WellFormed ∧
      (∀ q, t.fileAt q = e.files.fileAt q ∨ t.fileAt q = none) ∧
      ∀ d P, e.storage.disk record.disk = .ok d → d.filePath record.path = .ok P → t.fileAt P = none := by
  unfold discardArtifact
  rw [exec_get_bind]
  cases deleted : e.storage.disk record.disk >>= fun d => d.delete e.files record.path with
  | error err =>
    refine ⟨e.files, rfl, wf, fun _ => .inl rfl, fun d P located found => ?_⟩
    rw [located] at deleted
    exact FilesystemDisk.fileAt_delete_failed wf deleted found
  | ok t =>
    obtain ⟨d, located, removed⟩ := except_bind_eq_ok deleted
    refine ⟨t, rfl, FilesystemDisk.WellFormed.delete wf removed, fun q => FilesystemDisk.fileAt_delete_or removed q,
      fun d' P located' found => ?_⟩
    rw [located] at located'
    cases located'
    exact FilesystemDisk.fileAt_delete wf removed found

end Steps

/-! ## The paths of a run -/

/-- The state in which a run executes its record: the store after the
record's start. -/
def started (e : Exporter) (id : Int) : Exporter := { e with store := (e.store.markProcessing id).1 }

theorem started_eq {id : Int} {s₁ : RecordStore} {granted : Bool}
    (start : e.store.markProcessing id = (s₁, .ok granted)) : e.started id = { e with store := s₁ } := by
  rw [started, start]

section Paths

variable {e₂ e₃ e₄ : Exporter} {err : ExportError}

/-- A started run whose execution fails records the failure and returns it. -/
theorem exec_runStarted_execution_failed (ran : (execute r).exec e = (.error err, e₂)) :
    (runStarted r.id r).exec e = (.error err, ((recordFailure r.id err.message).exec e₂).2) := by
  unfold runStarted
  rw [exec_bind_ok (exec_attempt _ _), ran]
  dsimp only
  rw [exec_bind_ok (exec_recordFailure_ok _ _ _), exec_recordFailure_ok]
  rfl

/-- A started run whose execution succeeds and whose completion is granted
gives the record as it then stands. -/
theorem exec_runStarted_completed {n : Nat} (ran : (execute r).exec e = (.ok n, e₂))
    (completed : (complete r.id).exec e₂ = (.ok true, e₃)) :
    (runStarted r.id r).exec e = (find r.id).exec e₃ := by
  unfold runStarted
  rw [exec_bind_ok (exec_attempt _ _), ran]
  exact exec_bind_ok ((exec_attempt _ _).trans (by rw [completed]))

/-- A started run whose completion is refused deletes the record's file and
fails with the status the record then has. -/
theorem exec_runStarted_completion_refused {n : Nat} {q : ExportRecord}
    (ran : (execute r).exec e = (.ok n, e₂)) (completed : (complete r.id).exec e₂ = (.ok false, e₃))
    (discarded : (discardArtifact r).exec e₃ = (.ok (), e₄)) (current : (find r.id).exec e₄ = (.ok q, e₄)) :
    (runStarted r.id r).exec e = (.error (.invalidTransition r.id q.status .completed), e₄) := by
  unfold runStarted
  rw [exec_bind_ok (exec_attempt _ _), ran]
  rw [exec_bind_ok ((exec_attempt _ _).trans (by rw [completed])), exec_bind_ok discarded]
  unfold currentStatus
  rw [exec_bind_ok ((exec_bind_ok (f := fun q => pure q.status) current).trans (exec_pure _ _))]
  rfl

/-- A started run whose completion fails deletes the record's file, records
the failure and returns it. -/
theorem exec_runStarted_completion_failed {n : Nat} (ran : (execute r).exec e = (.ok n, e₂))
    (completed : (complete r.id).exec e₂ = (.error err, e₃)) (discarded : (discardArtifact r).exec e₃ = (.ok (), e₄)) :
    (runStarted r.id r).exec e = (.error err, ((recordFailure r.id err.message).exec e₄).2) := by
  unfold runStarted
  rw [exec_bind_ok (exec_attempt _ _), ran]
  rw [exec_bind_ok ((exec_attempt _ _).trans (by rw [completed])), exec_bind_ok discarded]
  rw [exec_bind_ok (exec_recordFailure_ok _ _ _), exec_recordFailure_ok]
  rfl

end Paths

/-- A run whose start is granted goes on as the started run from the state
the start leaves. -/
theorem exec_run_of_granted {s₁ : RecordStore} (found : (find r.id).exec e = (.ok r, e))
    (granted : e.store.markProcessing r.id = (s₁, .ok true)) :
    (run r.id).exec e = (runStarted r.id r).exec (e.started r.id) := by
  rw [started_eq granted]
  unfold run
  rw [exec_bind_ok found, exec_bind_ok (exec_withStore_ok (·.markProcessing r.id) granted)]
  simp only [↓reduceIte]

/-- A started run whose execution succeeded, with no fault set up for the
completion, completes the record, standing Processing as `r₂`, and gives it
back. -/
theorem exec_runStarted_granted {r₂ : ExportRecord} {e₂ : Exporter} {n : Nat}
    (ran : (execute r).exec e = (.ok n, e₂)) (present : ∃ q ∈ recs, q.id = r.id)
    (hs₂ : Stores e₂.store (withRecord recs r₂)) (processing : r₂.status = .processing) (own₂ : r₂.id = r.id)
    (readable : ∀ q ∈ recs, q.Readable) (readable₂ : r₂.Readable) (fault : e₂.completionFault = none) :
    ∃ s₃, (runStarted r.id r).exec e = (.ok (r₂.changed e₂.store.clock .complete), { e₂ with store := s₃ }) ∧
      Stores s₃ (withRecord recs (r₂.changed e₂.store.clock .complete)) := by
  obtain ⟨s₃, completed, hs₃⟩ := exec_complete_granted hs₂ (by rw [own₂]; exact present) processing fault
  rw [own₂] at completed
  have readable₃ := readable_withRecord readable (ExportRecord.readable_changed readable₂ e₂.store.clock .complete)
  have refound := find?_withRecord_of_id present (r := r₂.changed e₂.store.clock .complete)
    (by rw [ExportRecord.id_changed, own₂])
  refine ⟨s₃, ?_, hs₃⟩
  rw [exec_runStarted_completed ran completed,
    exec_find_found (e := { e₂ with store := s₃ }) hs₃ readable₃ refound]

/-! ## How a started run ends -/

/-- A path that holds what it held or nothing, twice over, holds what it held
at first or nothing. -/
theorem fileAt_kept_or_gone {t₀ t₁ t₂ : FileTree} {q : TreePath}
    (first : t₁.fileAt q = t₀.fileAt q ∨ t₁.fileAt q = none)
    (second : t₂.fileAt q = t₁.fileAt q ∨ t₂.fileAt q = none) :
    t₂.fileAt q = t₀.fileAt q ∨ t₂.fileAt q = none := by
  rcases second with same | gone
  · rw [same]
    exact first
  · exact .inr gone

/-- How the rest of a run of `r` ends from `e`, the state after the start of
its record, with result `res` in `e'`: the record stands as `r'` among
`recs`, every other as it was, and only the store, the files and the count of
issued names changed. An execution that fails with `err` ends the run with
`err`, the record with `err`'s message and no file changed. The run fails
only with the record Failed, and succeeds only with the record Completed,
given back, and the CSV text placed where its stored descriptor says. A
record that does not end Completed has nothing of the run at its own path on
its own disk. Off the descriptor's location every path keeps its file or has
none, so no staged file is left anywhere. -/
structure Ends (recs : List ExportRecord) (r : ExportRecord) (e : Exporter)
    (res : Except ExportError ExportRecord) (e' : Exporter) (r' : ExportRecord) : Prop where
  frame : e' = { e with store := e'.store, files := e'.files, issued := e'.issued }
  stored : Stores e'.store (withRecord recs r')
  own : r'.id = r.id
  wellFormed : e'.files.WellFormed
  executionFailed : ∀ err, ((execute r).exec e).1 = .error err →
    res = .error err ∧ r'.errorMessage = some err.message ∧ ∀ q, e'.files.fileAt q = e.files.fileAt q
  failed : ∀ err, res = .error err → r'.status = .failed
  completed : ∀ x, res = .ok x → x = r' ∧ r'.status = .completed ∧ Placed e r e.files e'.files
  cleared : r'.status ≠ .completed → ∀ d P, e.storage.disk r.disk = .ok d → d.filePath r.path = .ok P →
    e'.files.fileAt P = e.files.fileAt P ∨ e'.files.fileAt P = none
  elsewhere : ∀ q, e.destination r ≠ some q → e'.files.fileAt q = e.files.fileAt q ∨ e'.files.fileAt q = none

/-- Only the record of the run's id is read off the records an end is stated
over, so a record of that id replaced beforehand is replaced anew. -/
theorem Ends.of_withRecord {q : ExportRecord} {res : Except ExportError ExportRecord} {e' : Exporter}
    {r' : ExportRecord} (ended : Ends (withRecord recs q) r e res e' r') (own : q.id = r.id) :
    Ends recs r e res e' r' where
  frame := ended.frame
  stored := by
    rw [← withRecord_withRecord (own.trans ended.own.symm)]
    exact ended.stored
  own := ended.own
  wellFormed := ended.wellFormed
  executionFailed := ended.executionFailed
  failed := ended.failed
  completed := ended.completed
  cleared := ended.cleared
  elsewhere := ended.elsewhere

section Branches

/- After its execution the run's record stands as `r₂`, still Processing, in
`e₂`; each branch below follows one way the run goes on. -/
variable {r₂ : ExportRecord} {e₂ : Exporter}
  (present : ∃ q ∈ recs, q.id = r.id) (hs₂ : Stores e₂.store (withRecord recs r₂))
  (processing : r₂.status = .processing) (own₂ : r₂.id = r.id)
  (frame₂ : e₂ = { e with store := e₂.store, files := e₂.files, issued := e₂.issued })
  (wf₂ : e₂.files.WellFormed)
include present hs₂ processing own₂ frame₂ wf₂

theorem ends_execution_failed {err : ExportError} (ran : (execute r).exec e = (.error err, e₂))
    (kept : ∀ q, e₂.files.fileAt q = e.files.fileAt q) :
    ∃ r', Ends recs r e ((runStarted r.id r).exec e).1 ((runStarted r.id r).exec e).2 r' ∧ r'.jobId = r₂.jobId ∧
      r'.queryBindings = r₂.queryBindings := by
  obtain ⟨s₃, recorded, hs₃⟩ := exec_recordFailure hs₂ (by rw [own₂]; exact present) processing err.message
  rw [own₂] at recorded
  rw [exec_runStarted_execution_failed ran, recorded]
  refine ⟨r₂.changed e₂.store.clock (.fail err.message),
    { frame := ?_, stored := hs₃, own := by rw [ExportRecord.id_changed, own₂], wellFormed := wf₂,
      executionFailed := fun err' failed => ?_, failed := fun _ _ => rfl,
      completed := fun _ given => (by cases given), cleared := fun _ _ P _ _ => .inl (kept P),
      elsewhere := fun q _ => .inl (kept q) }, rfl, rfl⟩
  · rw [frame₂]
  · rw [ran] at failed
    cases failed
    exact ⟨rfl, rfl, kept⟩

theorem ends_completed (readable : ∀ q ∈ recs, q.Readable) (readable₂ : r₂.Readable) {n : Nat}
    (ran : (execute r).exec e = (.ok n, e₂)) (placed : Placed e r e.files e₂.files)
    (fault : e.completionFault = none) :
    ∃ r', Ends recs r e ((runStarted r.id r).exec e).1 ((runStarted r.id r).exec e).2 r' ∧ r'.jobId = r₂.jobId ∧
      r'.queryBindings = r₂.queryBindings := by
  have fault₂ : e₂.completionFault = none := by rw [frame₂]; exact fault
  obtain ⟨s₃, completed, hs₃⟩ :=
    exec_runStarted_granted ran present hs₂ processing own₂ readable readable₂ fault₂
  rw [completed]
  refine ⟨r₂.changed e₂.store.clock .complete,
    { frame := ?_, stored := hs₃, own := by rw [ExportRecord.id_changed, own₂], wellFormed := wf₂,
      executionFailed := fun err failed => ?_, failed := fun _ given => (by cases given),
      completed := fun x given => ?_, cleared := fun unfinished => absurd rfl unfinished,
      elsewhere := fun q off => .inl (placed.off off) }, rfl, rfl⟩
  · rw [frame₂]
  · rw [ran] at failed
    cases failed
  · cases given
    exact ⟨rfl, rfl, placed⟩

theorem ends_completion_refused (readable : ∀ q ∈ recs, q.Readable) (readable₂ : r₂.Readable) {n : Nat}
    (ran : (execute r).exec e = (.ok n, e₂)) (placed : Placed e r e.files e₂.files)
    (fault : e.completionFault = some .refused) :
    ∃ r', Ends recs r e ((runStarted r.id r).exec e).1 ((runStarted r.id r).exec e).2 r' ∧ r'.jobId = r₂.jobId ∧
      r'.queryBindings = r₂.queryBindings := by
  have fault₂ : e₂.completionFault = some .refused := by rw [frame₂]; exact fault
  have storage₂ : e₂.storage = e.storage := by rw [frame₂]
  obtain ⟨s₃, completed, hs₃⟩ := exec_complete_refused hs₂ (by rw [own₂]; exact present) processing fault₂
  rw [own₂] at completed
  obtain ⟨t₄, discarded, wf₄, removes, cleared⟩ := exec_discardArtifact (e := { e₂ with store := s₃ }) r wf₂
  have refound := find?_withRecord_of_id present (r := r₂.changed e₂.store.clock (.fail "cancelled"))
    (by rw [ExportRecord.id_changed, own₂])
  have readable₃ := readable_withRecord readable (ExportRecord.readable_changed readable₂ e₂.store.clock (.fail "cancelled"))
  have current := exec_find_found (e := { { e₂ with store := s₃ } with files := t₄ }) hs₃ readable₃ refound
  rw [exec_runStarted_completion_refused ran completed discarded current]
  refine ⟨r₂.changed e₂.store.clock (.fail "cancelled"),
    { frame := ?_, stored := hs₃, own := by rw [ExportRecord.id_changed, own₂], wellFormed := wf₄,
      executionFailed := fun err failed => ?_, failed := fun _ _ => rfl, completed := fun _ given => (by cases given),
      cleared := fun _ d P located path => ?_,
      elsewhere := fun q off => fileAt_kept_or_gone (.inl (placed.off off)) (removes q) }, rfl, rfl⟩
  · rw [frame₂]
  · rw [ran] at failed
    cases failed
  · exact .inr (cleared d P (by rw [storage₂]; exact located) path)

theorem ends_completion_failed {n : Nat} {message : String}
    (ran : (execute r).exec e = (.ok n, e₂)) (placed : Placed e r e.files e₂.files)
    (fault : e.completionFault = some (.failed message)) :
    ∃ r', Ends recs r e ((runStarted r.id r).exec e).1 ((runStarted r.id r).exec e).2 r' ∧ r'.jobId = r₂.jobId ∧
      r'.queryBindings = r₂.queryBindings := by
  have fault₂ : e₂.completionFault = some (.failed message) := by rw [frame₂]; exact fault
  have storage₂ : e₂.storage = e.storage := by rw [frame₂]
  obtain ⟨t₃, discarded, wf₃, removes, cleared⟩ := exec_discardArtifact (e := e₂) r wf₂
  obtain ⟨s₄, recorded, hs₄⟩ := exec_recordFailure (e := { e₂ with files := t₃ }) hs₂ (by rw [own₂]; exact present)
    processing (ExportError.data (.io message)).message
  rw [own₂] at recorded
  rw [exec_runStarted_completion_failed ran (exec_complete_failed fault₂) discarded, recorded]
  refine ⟨r₂.changed e₂.store.clock (.fail (ExportError.data (.io message)).message),
    { frame := ?_, stored := hs₄, own := by rw [ExportRecord.id_changed, own₂], wellFormed := wf₃,
      executionFailed := fun err failed => ?_, failed := fun _ _ => rfl, completed := fun _ given => (by cases given),
      cleared := fun _ d P located path => ?_,
      elsewhere := fun q off => fileAt_kept_or_gone (.inl (placed.off off)) (removes q) }, rfl, rfl⟩
  · rw [frame₂]
  · rw [ran] at failed
    cases failed
  · exact .inr (cleared d P (by rw [storage₂]; exact located) path)

end Branches

/-- The rest of a run whose record stands Processing as `r₁` ends as `Ends`
says, from any state: the execution is as `Executed` describes it, and each
way the completion goes is one of the branches above. -/
theorem exec_runStarted_processing (hs : Stores e.store recs) (readable : ∀ q ∈ recs, q.Readable)
    (reads : e.ReportsRead) (wf : e.files.WellFormed) {r₁ : ExportRecord}
    (held : r₁ ∈ recs) (processing : r₁.status = .processing) (own : r.id = r₁.id) :
    ∃ r', Ends recs r e ((runStarted r.id r).exec e).1 ((runStarted r.id r).exec e).2 r' ∧
      r'.jobId = r₁.jobId ∧ r'.queryBindings = r₁.queryBindings := by
  have present : ∃ q ∈ recs, q.id = r.id := ⟨r₁, held, own.symm⟩
  have executed := exec_execute (e := e) reads wf
    ⟨_, .refl _, by rw [hs.withRecord_self held]; exact hs⟩ ⟨r₁, held, rfl⟩ own
  obtain ⟨r₂, progressed, hs₂⟩ := executed.streaming
  have processing₂ : r₂.status = .processing := by rw [progressed.status_eq, processing]
  have own₂ : r₂.id = r.id := by rw [progressed.id_eq, own]
  have readable₂ : r₂.Readable := progressed.readable (readable r₁ held)
  have frame₂ := executed.frame
  -- progress leaves the job and the bindings, and so does each way the run ends
  suffices settled : ∃ r', Ends recs r e ((runStarted r.id r).exec e).1 ((runStarted r.id r).exec e).2 r' ∧
      r'.jobId = r₂.jobId ∧ r'.queryBindings = r₂.queryBindings by
    obtain ⟨r', ended, job, bindings⟩ := settled
    exact ⟨r', ended, job.trans progressed.jobId_eq, bindings.trans progressed.queryBindings_eq⟩
  rcases ran : (execute r).exec e with ⟨res, e₂⟩
  rw [ran] at executed hs₂ frame₂
  cases res with
  | error err =>
    exact ends_execution_failed present hs₂ processing₂ own₂ frame₂ executed.wellFormed ran (executed.kept err rfl)
  | ok n =>
    have placed := executed.placed n rfl
    cases fault : e.completionFault with
    | none =>
      exact ends_completed present hs₂ processing₂ own₂ frame₂ executed.wellFormed readable readable₂ ran placed
        fault
    | some f =>
      cases f with
      | refused =>
        exact ends_completion_refused present hs₂ processing₂ own₂ frame₂ executed.wellFormed readable readable₂
          ran placed fault
      | failed message =>
        exact ends_completion_failed present hs₂ processing₂ own₂ frame₂ executed.wellFormed ran placed fault

/-- A run of a Dispatched record is granted its start, and goes on as the
started run from the state the start leaves. -/
theorem exec_run_dispatched (hs : Stores e.store recs) (readable : ∀ q ∈ recs, q.Readable)
    (reads : e.ReportsRead) (wf : e.files.WellFormed) (held : r ∈ recs) (dispatched : r.status = .dispatched) :
    ∃ r', Ends recs r (e.started r.id) ((run r.id).exec e).1 ((run r.id).exec e).2 r' ∧ r'.jobId = r.jobId ∧
      r'.queryBindings = r.queryBindings := by
  have present : ∃ q ∈ recs, q.id = r.id := ⟨r, held, rfl⟩
  have found : (find r.id).exec e = (.ok r, e) :=
    exec_find_found hs readable (by rw [← hs.withRecord_self held]; exact find?_withRecord present)
  -- the start is granted, the record being Dispatched
  have hs₀ : Stores e.store (withRecord recs r) := by rw [hs.withRecord_self held]; exact hs
  obtain ⟨s₁, granted, hs₁, -⟩ := hs₀.changeStatus_withRecord present .start
  have applies : StatusChange.start.appliesTo r.id r = true := by
    rw [appliesTo_own, dispatched]
    rfl
  rw [applies, if_pos rfl] at hs₁
  rw [applies] at granted
  rw [exec_run_of_granted found granted]
  have started : Stores (e.started r.id).store (withRecord recs (r.changed e.store.clock .start)) := by
    rw [started_eq granted]
    exact hs₁
  obtain ⟨r', ended, job, bindings⟩ := exec_runStarted_processing (r := r) started
    (readable_withRecord readable (ExportRecord.readable_changed (readable r held) _ _)) reads wf
    (mem_withRecord (r := r.changed e.store.clock .start) present)
    (by simp [ExportRecord.status_changed, StatusChange.target]) (by simp)
  exact ⟨r', ended.of_withRecord (by simp), by rw [job]; rfl, by rw [bindings]; rfl⟩

/-- A run settles its record and its file. A record that is not stored is not
found and nothing changes; a record that is not Dispatched refuses the run
from its status to Processing and keeps every record and every file; the run
of a Dispatched record is granted its start and ends, from the state after
it, as `Ends` says. -/
theorem run_settles_record_and_file (hs : Stores e.store recs) (readable : ∀ q ∈ recs, q.Readable)
    (reads : e.ReportsRead) (wf : e.files.WellFormed) (id : Int) :
    (recs.find? (·.id == id) = none → (run id).exec e = (.error (.notFound id), e)) ∧
    (∀ r, recs.find? (·.id == id) = some r → r.status ≠ .dispatched →
      ((run id).exec e).1 = .error (.invalidTransition id r.status .processing) ∧
        Stores ((run id).exec e).2.store recs ∧ ((run id).exec e).2.files = e.files) ∧
    (∀ r, recs.find? (·.id == id) = some r → r.status = .dispatched →
      ∃ r', Ends recs r (e.started id) ((run id).exec e).1 ((run id).exec e).2 r') := by
  refine ⟨exec_run_missing hs readable, fun r found unstarted => ?_, fun r found dispatched => ?_⟩
  · obtain ⟨s', refused, stores⟩ := exec_run_refused hs readable found unstarted
    rw [refused]
    exact ⟨rfl, stores, rfl⟩
  · have own : r.id = id := by simpa using List.find?_some found
    subst own
    obtain ⟨r', ended, -⟩ :=
      exec_run_dispatched hs readable reads wf (List.mem_of_find?_eq_some found) dispatched
    exact ⟨r', ended⟩

/-! ## A record whose path changed after it was created

A run writes where the record's stored descriptor says. For a record as it
was created the two agree; a record whose own path column was changed since
has its CSV placed at the descriptor's location all the same, and nothing at
its own path. -/

section Moved

/-- The store holding exactly the given records, with nothing else in its
tables. -/
def storeOf (recs : List ExportRecord) : RecordStore :=
  { conn := { db := { tables := storeTables #[] #[] (recs.map ExportRecord.row).toArray (sequenceRows recs),
                      indexes := exportIndexes } } }

theorem stores_storeOf {recs : List ExportRecord} (ascending : (recs.map (·.id)).Pairwise (· < ·))
    (linked : Linked recs) : Stores (storeOf recs) recs :=
  ⟨rfl, ⟨⟨#[], #[], rfl⟩, rfl, rfl, rfl, rfl⟩, ascending, linked⟩

/-- The plain report, streamed in bulk to `r/a` on the local disk. -/
def plainDescriptor : ReportDescriptor :=
  { kind := "plain", arguments := .null, disk := "local", directory := "r", filename := "a",
    mode := .bulk, chunkSize := 1000 }

def localDisk : FilesystemDisk := { name := "local", root := ["disks", "local"] }

/-- A Dispatched record of the plain descriptor whose own path names `b`. -/
def movedRecord : ExportRecord :=
  { id := 1, reportKind := "plain", descriptorText := plainDescriptor.toJson.compact, querySql := "",
    queryBindings := [], status := .dispatched, disk := "local", path := "b", queue := "default" }

/-- Only the plain report, the local disk and the moved record. -/
def movedExporter : Exporter :=
  { store := storeOf [movedRecord], queue := {}, storage := { disks := [localDisk] }, disksHome := ["disks"],
    staging := ["staging"], registry := { kinds := ["plain"] } }

theorem movedExporter_stores : Stores movedExporter.store [movedRecord] :=
  stores_storeOf (List.pairwise_singleton _ _) fun q held p retried => by
    rw [List.mem_singleton.mp held] at retried
    cases retried

theorem movedRecord_readable : ∀ q ∈ [movedRecord], q.Readable := by
  intro q held
  rw [List.mem_singleton.mp held]
  exact ⟨fun _ none => (nomatch none), by decide, fun _ none => (nomatch none)⟩

/-- The moved record's run, from a store of that record alone, ends as `Ends` says. -/
theorem moved_run_ends :
    Stores movedExporter.store [movedRecord] ∧ (∀ q ∈ [movedRecord], q.Readable) ∧ movedExporter.ReportsRead ∧
      movedExporter.files.WellFormed ∧
      ∃ r', Ends [movedRecord] movedRecord (movedExporter.started movedRecord.id)
        ((run movedRecord.id).exec movedExporter).1 ((run movedRecord.id).exec movedExporter).2 r' :=
  have reads : movedExporter.ReportsRead := reportsRead_of_untabled (by decide)
  ⟨movedExporter_stores, movedRecord_readable, reads, FileTree.wellFormed_empty,
    (run_settles_record_and_file movedExporter_stores movedRecord_readable reads FileTree.wellFormed_empty
      movedRecord.id).2.2 movedRecord rfl rfl⟩

/-! The concrete steps of the moved record's execution. Paths are split at
`/` by evaluation, so the names are kept to a letter. -/

theorem movedRecord_descriptor : storedDescriptor movedRecord = .ok plainDescriptor := by
  refine storedDescriptor_compact ⟨trivial, fun _ h => (nomatch h), by decide⟩ ?_ (by decide) rfl
  intro n mem
  simp [ReportDescriptor.toJson, plainDescriptor, Json.numbers, Json.numbersItems, Json.numbersMembers, Json.nat] at mem
  subst mem
  exact Number.rereads_int (by decide) (by decide)

theorem localDisk_resolve_directory : localDisk.resolve plainDescriptor.directory = .ok ["disks", "local", "r"] := by
  have parts : "r".splitOn "/" = ["r"] := by cbv
  simp [FilesystemDisk.resolve, FilesystemDisk.components, parts, localDisk, plainDescriptor]

theorem localDisk_filePath_output : localDisk.filePath plainDescriptor.outputPath = .ok ["disks", "local", "r", "a"] := by
  have parts : "r/a".splitOn "/" = ["r", "a"] := by cbv
  simp [FilesystemDisk.filePath, FilesystemDisk.resolve, FilesystemDisk.components, parts, localDisk,
    show plainDescriptor.outputPath = "r/a" from rfl]

theorem localDisk_filePath_moved : localDisk.filePath movedRecord.path = .ok ["disks", "local", "b"] := by
  have parts : "b".splitOn "/" = ["b"] := by cbv
  simp [FilesystemDisk.filePath, FilesystemDisk.resolve, FilesystemDisk.components, parts, localDisk, movedRecord]

/-- The moved record's execution succeeds from any store holding it: the CSV
lands at `r/a`, and nothing at `b`. -/
theorem exec_execute_moved {s : RecordStore} {r : ExportRecord} (hs : Stores s (withRecord [movedRecord] r))
    (own : r.id = movedRecord.id) :
    ∃ n s' t r', (execute movedRecord).exec { movedExporter with store := s } =
        (.ok n, { movedExporter with store := s', files := t, issued := 1 }) ∧
      t.fileAt ["disks", "local", "b"] = none ∧ (∃ text, t.fileAt ["disks", "local", "r", "a"] = some text) ∧
      r.Progressed r' ∧ Stores s' (withRecord [movedRecord] r') := by
  have held : ∃ q ∈ [movedRecord], q.id = r.id := ⟨movedRecord, List.mem_singleton_self _, own.symm⟩
  obtain ⟨s', r', streamed, progressed, stores⟩ := exec_streamAll_memory
    (e := { { movedExporter with store := s } with files := { entries := [(["staging"], .directory)] } }) hs held
    { name := "plain", rows := plainRows } (CsvSink.create (ReportDefinition.restore .plain plainDescriptor).headers)
  -- the descriptor, the plain report, its rows and the local disk
  unfold execute
  rw [exec_get_bind, exec_bind_ok ((exec_fromExcept _ _).trans (by rw [movedRecord_descriptor]))]
  rw [exec_bind_ok ((exec_fromExcept _ _).trans (by rfl)), exec_bind_ok ((exec_fromExcept _ _).trans (by rfl)),
    exec_bind_ok ((exec_fromExcept _ _).trans (by rfl)),
    exec_bind_ok (exec_openStaging_ok (t := { entries := [(["staging"], .directory)] }) (by rfl))]
  rw [← own, show plainDescriptor.mode = .bulk from rfl]
  dsimp only at streamed ⊢
  rw [exec_bind_ok streamed]
  -- staged as `.tmp1`, then moved into the directory `r`, which is made first
  rw [localDisk_filePath_output, exec_bind_ok (exec_stage_ok (u := { entries := [(["staging"], .directory)] })
    (p := ["staging", ".tmp1"]) rfl (by dsimp only; decide) rfl)]
  rw [exec_bind_ok (exec_publish_ok false
    (by unfold FilesystemDisk.exists?; rw [localDisk_resolve_directory]; rfl)
    (by simp only [Bool.false_eq_true, if_false]; unfold FilesystemDisk.makeDirectory; rw [localDisk_resolve_directory]; rfl)
    (by unfold FilesystemDisk.putFile; rw [localDisk_filePath_output]; rfl))]
  exact ⟨_, s', _, r', rfl, rfl, ⟨_, rfl⟩, progressed, stores⟩

/-- The moved record's run succeeds and completes the record, with its CSV at
the descriptor's location `r/a` on the local disk and nothing at the
record's own path `b`. -/
theorem moved_record_csv_lands_at_descriptor_path :
    ∃ x e', (run movedRecord.id).exec movedExporter = (.ok x, e') ∧ x.status = .completed ∧
      storedDescriptor movedRecord = .ok plainDescriptor ∧
      movedExporter.storage.disk movedRecord.disk = .ok localDisk ∧
      localDisk.filePath plainDescriptor.outputPath = .ok ["disks", "local", "r", "a"] ∧
      localDisk.filePath movedRecord.path = .ok ["disks", "local", "b"] ∧
      (∃ text, e'.files.fileAt ["disks", "local", "r", "a"] = some text) ∧
      e'.files.fileAt ["disks", "local", "b"] = none := by
  have held : movedRecord ∈ [movedRecord] := List.mem_singleton_self _
  have present : ∃ q ∈ [movedRecord], q.id = movedRecord.id := ⟨_, held, rfl⟩
  have found : (find movedRecord.id).exec movedExporter = (.ok movedRecord, movedExporter) :=
    exec_find_found movedExporter_stores movedRecord_readable rfl
  -- the start is granted: the record is Dispatched
  have hs₀ : Stores movedExporter.store (withRecord [movedRecord] movedRecord) := by
    rw [movedExporter_stores.withRecord_self held]
    exact movedExporter_stores
  obtain ⟨s₁, granted, hs₁, -⟩ := hs₀.changeStatus_withRecord present .start
  have applies : StatusChange.start.appliesTo movedRecord.id movedRecord = true := rfl
  rw [applies, if_pos rfl] at hs₁
  rw [applies] at granted
  -- the execution succeeds, and the completion is granted
  obtain ⟨n, s₂, t, r₂, ran, off, placed, progressed, hs₂⟩ := exec_execute_moved hs₁ (by simp)
  have processing : r₂.status = .processing := by rw [progressed.status_eq]; rfl
  have own₂ : r₂.id = movedRecord.id := by rw [progressed.id_eq]; simp
  obtain ⟨s₃, completed, -⟩ := exec_runStarted_granted ran present hs₂ processing own₂ movedRecord_readable
    (progressed.readable (ExportRecord.readable_changed (movedRecord_readable _ held) _ _)) rfl
  rw [exec_run_of_granted found granted, started_eq granted, completed]
  exact ⟨_, _, rfl, rfl, movedRecord_descriptor, rfl, localDisk_filePath_output, localDisk_filePath_moved,
    placed, off⟩

end Moved

end Exporter

end ReportExport
