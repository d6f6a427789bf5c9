import ReportExport.Proofs.Export.Outcome
import ReportExport.Proofs.Store.Listing
import ReportExport.Proofs.Queue.Held

/-!
# At most one live job per export

Jobs for an export are pushed in two places: a dispatch or a retry moves its
new record to Dispatched under a fresh job id and only then pushes the job
of that id, and recovery pushes, for every Dispatched record, a job under the
record's own job id. The queue ignores a push of an id it holds, queued or
reserved, and its other requests only move, settle or hand back the jobs it
holds. So every job the queue holds carries the id of a stored record and
that record's job id (`JobsRecorded`), and a record keeps its job id once it
has one: only a Pending record is dispatched, and a Pending record has none.

`Coherent` gathers this with the facts the steps need of the store, the queue
and the files. Each call of the service or of a worker keeps it
(`Coherent.perform`), hence every sequence of calls does
(`Coherent.afterCalls`). From it, `one_live_job_per_export`: for every export,
the queue holds at most one job of that export's payload, and a Dispatched
record's job, when the queue holds one, has the record's job id.
-/

namespace ReportExport

open Store Sql ExportM Exporter

/-! ## Records and the jobs they name -/

/-- `r'` stands for `r` as far as jobs go: the same id and job id, and
either `r`'s status or one past Dispatched. -/
def ExportRecord.KeepsJob (r r' : ExportRecord) : Prop :=
  r'.id = r.id ∧ r'.jobId = r.jobId ∧ (r'.status = r.status ∨ (r'.status ≠ .pending ∧ r'.status ≠ .dispatched))

namespace ExportRecord

theorem KeepsJob.refl (r : ExportRecord) : r.KeepsJob r := ⟨rfl, rfl, .inl rfl⟩

/-- Every change of status but a dispatch moves a record past Dispatched and
keeps its job. -/
theorem keepsJob_changed (r : ExportRecord) (now : Int) {c : StatusChange} (undispatched : ∀ j, c ≠ .dispatch j) :
    r.KeepsJob (r.changed now c) := by
  cases c with
  | dispatch j => exact absurd rfl (undispatched j)
  | start => exact ⟨rfl, rfl, .inr ⟨nofun, nofun⟩⟩
  | complete => exact ⟨rfl, rfl, .inr ⟨nofun, nofun⟩⟩
  | fail message => exact ⟨rfl, rfl, .inr ⟨nofun, nofun⟩⟩

end ExportRecord

/-- The jobs of a queue as the records know them: a Pending record has no job
id, a Dispatched one has one, and every job the queue holds carries the id of
a stored record whose job id it has. -/
structure JobsRecorded (recs : List ExportRecord) (q : MemoryQueue) : Prop where
  unassigned : ∀ r ∈ recs, r.status = .pending → r.jobId = none
  assigned : ∀ r ∈ recs, r.status = .dispatched → r.jobId.isSome
  recorded : ∀ j ∈ q.heldJobs, ∃ r ∈ recs, j.payload = ExportJob.payload r.id ∧ r.jobId = some j.id

namespace JobsRecorded

variable {recs : List ExportRecord} {q : MemoryQueue}

/-- Records that each keep their job keep the jobs recorded. -/
theorem map (jobs : JobsRecorded recs q) {g : ExportRecord → ExportRecord} (each : ∀ r ∈ recs, r.KeepsJob (g r)) :
    JobsRecorded (recs.map g) q := by
  refine ⟨fun r' mem pending => ?_, fun r' mem dispatched => ?_, fun j held => ?_⟩
  · obtain ⟨r, held, rfl⟩ := List.mem_map.1 mem
    obtain ⟨-, job, same | ⟨unpending, -⟩⟩ := each r held
    · exact job.trans (jobs.unassigned r held (same ▸ pending))
    · exact absurd pending unpending
  · obtain ⟨r, held, rfl⟩ := List.mem_map.1 mem
    obtain ⟨-, job, same | ⟨-, undispatched⟩⟩ := each r held
    · exact job ▸ jobs.assigned r held (same ▸ dispatched)
    · exact absurd dispatched undispatched
  · obtain ⟨r, stored, payload, job⟩ := jobs.recorded j held
    obtain ⟨own, job', -⟩ := each r stored
    exact ⟨g r, List.mem_map_of_mem stored, own ▸ payload, job'.trans job⟩

/-- Replacing a stored record by one that keeps its job keeps the jobs
recorded. -/
theorem withRecord (jobs : JobsRecorded recs q) {s : RecordStore} (hs : Stores s recs) {r r' : ExportRecord}
    (held : r ∈ recs) (keeps : r.KeepsJob r') : JobsRecorded (withRecord recs r') q := by
  refine jobs.map fun q mem => ?_
  by_cases own : q.id = r'.id
  · -- only `r` has the id
    have same : q = r := hs.eq_of_id mem held (own.trans keeps.1)
    subst same
    simpa [own] using keeps
  · simpa [own] using ExportRecord.KeepsJob.refl q

/-- A new record with no job id, or Dispatched with one, keeps the jobs
recorded. -/
theorem append (jobs : JobsRecorded recs q) {r : ExportRecord} (unassigned : r.status = .pending → r.jobId = none)
    (assigned : r.status = .dispatched → r.jobId.isSome) : JobsRecorded (recs ++ [r]) q := by
  refine ⟨fun q mem => ?_, fun q mem => ?_, fun j held => ?_⟩
  · rcases List.mem_append.1 mem with old | new
    · exact jobs.unassigned q old
    · exact List.mem_singleton.1 new ▸ unassigned
  · rcases List.mem_append.1 mem with old | new
    · exact jobs.assigned q old
    · exact List.mem_singleton.1 new ▸ assigned
  · obtain ⟨r', stored, recorded⟩ := jobs.recorded j held
    exact ⟨r', List.mem_append_left _ stored, recorded⟩

/-- A queue that holds only jobs the queue before it held keeps them
recorded. -/
theorem carried (jobs : JobsRecorded recs q) {q' : MemoryQueue} (carries : q.Carries q') : JobsRecorded recs q' := by
  refine ⟨jobs.unassigned, jobs.assigned, fun j held => ?_⟩
  obtain ⟨j₀, held₀, id, -, payload⟩ := carries j held
  obtain ⟨r, stored, recorded, job⟩ := jobs.recorded j₀ held₀
  exact ⟨r, stored, payload ▸ recorded, id ▸ job⟩

/-- Pushing a job under a stored record's job id, with its id as payload,
keeps the jobs recorded. -/
theorem push (jobs : JobsRecorded recs q) (distinct : (q.queues.map (·.1)).Nodup) {r : ExportRecord}
    (stored : r ∈ recs) {job : QueuedJob} (payload : job.payload = ExportJob.payload r.id) (named : r.jobId = some job.id) :
    JobsRecorded recs (q.push job) := by
  refine ⟨jobs.unassigned, jobs.assigned, fun j held => ?_⟩
  rw [MemoryQueue.heldJobs_push distinct] at held
  split at held
  · exact jobs.recorded j held
  · rcases Multiset.mem_cons.1 held with rfl | old
    · exact ⟨r, stored, payload, named⟩
    · exact jobs.recorded j old

/-- A record a dispatch applies to was Pending. -/
theorem pending_of_appliesTo {id : Int} {jobId : String} {r : ExportRecord}
    (applies : (StatusChange.dispatch jobId).appliesTo id r = true) : r.status = .pending := by
  simp only [StatusChange.appliesTo, Bool.and_eq_true, StatusChange.target, ExportStatus.canTransitionTo,
    ExportStatus.predecessors] at applies
  simpa using applies.2

/-- Every change of status keeps the jobs recorded; a dispatch gives a job id
to Pending records only, which no held job names. -/
theorem changed (jobs : JobsRecorded recs q) (id now : Int) (c : StatusChange) :
    JobsRecorded (recs.map fun r => if c.appliesTo id r then r.changed now c else r) q := by
  cases c with
  | dispatch jobId =>
    refine ⟨fun r' mem => ?_, fun r' mem => ?_, fun j held => ?_⟩
    · obtain ⟨r, stored, rfl⟩ := List.mem_map.1 mem
      split
      · exact nofun
      · exact jobs.unassigned r stored
    · obtain ⟨r, stored, rfl⟩ := List.mem_map.1 mem
      split
      · exact fun _ => rfl
      · exact jobs.assigned r stored
    · obtain ⟨r, stored, payload, named⟩ := jobs.recorded j held
      -- the record naming a held job has a job id, so it was not Pending and stays as it is
      have unapplied : (StatusChange.dispatch jobId).appliesTo id r = false := by
        cases applies : (StatusChange.dispatch jobId).appliesTo id r
        · rfl
        · rw [jobs.unassigned r stored (pending_of_appliesTo applies)] at named
          cases named
      exact ⟨r, List.mem_map.2 ⟨r, stored, by simp [unapplied]⟩, payload, named⟩
  | start | complete | fail =>
    refine jobs.map fun r _ => ?_
    split
    · exact r.keepsJob_changed _ nofun
    · exact ExportRecord.KeepsJob.refl r

end JobsRecorded

/-! ## The pipeline's state -/

/-- The pipeline's state over the records `recs` it stores, as every call of
the service and of a worker keeps it: the records read back and record the
queue's jobs, the queue and the file tree are well-formed, and reports only
read. -/
structure Coherent (e : Exporter) (recs : List ExportRecord) : Prop where
  stored : Stores e.store recs
  readable : ∀ r ∈ recs, r.Readable
  jobs : JobsRecorded recs e.queue
  conserving : e.queue.Conserving
  wellFormed : e.files.WellFormed
  reads : e.ReportsRead

namespace Coherent

variable {e : Exporter} {recs : List ExportRecord}

/-- A store of other records that record the queue's jobs. -/
theorem store (co : Coherent e recs) {s : RecordStore} {recs' : List ExportRecord} (hs : Stores s recs')
    (readable : ∀ r ∈ recs', r.Readable) (jobs : JobsRecorded recs' e.queue) :
    Coherent { e with store := s } recs' :=
  ⟨hs, readable, jobs, co.conserving, co.wellFormed, co.reads⟩

/-- A store of the same records. -/
theorem same (co : Coherent e recs) {s : RecordStore} (hs : Stores s recs) : Coherent { e with store := s } recs :=
  co.store hs co.readable co.jobs

/-- A request of the queue that is no push. -/
theorem queue (co : Coherent e recs) (call : QueueCall) (drawn : ∀ job, call ≠ .push job) :
    Coherent { e with queue := e.queue.perform call } recs :=
  ⟨co.stored, co.readable, co.jobs.carried (MemoryQueue.Carries.perform co.conserving.distinctNames call drawn),
    (co.conserving.perform call).1, co.wellFormed, co.reads⟩

/-- A state that differs only in its store, files and issued ids. -/
theorem frame (co : Coherent e recs) {e' : Exporter}
    (frame : e' = { e with store := e'.store, files := e'.files, issued := e'.issued }) {recs' : List ExportRecord}
    (hs : Stores e'.store recs') (readable : ∀ r ∈ recs', r.Readable) (jobs : JobsRecorded recs' e.queue)
    (wf : e'.files.WellFormed) : Coherent e' recs' := by
  rw [frame]
  exact ⟨hs, readable, jobs, co.conserving, wf, co.reads⟩

/-- A push of a job under a stored record's job id, with its id as payload. -/
theorem push (co : Coherent e recs) {r : ExportRecord} (stored : r ∈ recs) (job : QueuedJob)
    (payload : job.payload = ExportJob.payload r.id) (named : r.jobId = some job.id) :
    Coherent { e with queue := e.queue.push job } recs :=
  ⟨co.stored, co.readable, co.jobs.push co.conserving.distinctNames stored payload named,
    (co.conserving.perform (.push job)).1, co.wellFormed, co.reads⟩

/-- Issuing an id. -/
theorem issue (co : Coherent e recs) (n : Nat) : Coherent { e with issued := n } recs :=
  ⟨co.stored, co.readable, co.jobs, co.conserving, co.wellFormed, co.reads⟩

/-- An acknowledgement the queue took. -/
theorem acked (co : Coherent e recs) {id : String} {q : MemoryQueue} (taken : e.queue.ack id = .ok q) :
    Coherent { e with queue := q } recs := by
  have settled := co.queue (.ack id) nofun
  simpa only [MemoryQueue.perform, taken] using settled

/-- A failure the queue took. -/
theorem failed (co : Coherent e recs) {id error : String} {d : FailureDisposition} {q : MemoryQueue}
    (taken : e.queue.fail id error = .ok (d, q)) : Coherent { e with queue := q } recs := by
  have settled := co.queue (.fail id error) nofun
  simpa only [MemoryQueue.perform, taken] using settled

/-- A change of status. -/
theorem changeStatus (co : Coherent e recs) (id : Int) (c : StatusChange) :
    Coherent { e with store := (e.store.changeStatus id c).1 }
      (recs.map fun r => if c.appliesTo id r then r.changed e.store.clock c else r) := by
  obtain ⟨s', request, stores, -⟩ := co.stored.changeStatus_spec id c
  rw [request]
  refine co.store stores (fun r' mem => ?_) (co.jobs.changed id e.store.clock c)
  obtain ⟨r, held, rfl⟩ := List.mem_map.1 mem
  split
  · exact ExportRecord.readable_changed (co.readable r held) _ c
  · exact co.readable r held

end Coherent

namespace Exporter

variable {e : Exporter} {recs : List ExportRecord}

/-- Looking a record up changes nothing, whatever it finds. -/
theorem exec_find_state (hs : Stores e.store recs) (id : Int) : ((find id).exec e).2 = e := by
  unfold find
  rw [exec_bind, exec_withStore, hs.getExport_eq id]
  cases recs.find? (·.id == id) with
  | none => rfl
  | some r =>
    dsimp only
    cases readRecord ⟨ExportRecord.columnNames, r.values.toList⟩ <;> rfl

end Exporter

namespace Coherent

variable {e : Exporter} {recs : List ExportRecord}

/-! ## The service's steps -/

/-- Creating the record of a request that the store accepts, whose bindings
read back: the new record is stored past the last, and failed at once when
the cancel is set up. -/
theorem exec_createRecord (co : Coherent e recs) (n : NewExport)
    (accepted : lastId recs < maxInteger ∧ (n.record (lastId recs + 1) e.store.clock).parentIn
      (recs ++ [n.record (lastId recs + 1) e.store.clock]) = true)
    (bindings : BindingsReread n.queryBindings) :
    ∃ e₁ recs₁, (createRecord n).exec e = (.ok (n.record (lastId recs + 1) e.store.clock), e₁) ∧
      Coherent e₁ recs₁ := by
  obtain ⟨-, spec⟩ := co.stored.createExport_spec n
  rw [if_pos accepted] at spec
  have created : e.store.createExport n =
      ((e.store.createExport n).1, .ok (n.record (lastId recs + 1) e.store.clock)) :=
    Prod.ext rfl (co.stored.createExport_returns n accepted bindings)
  -- the new record is Pending with no job id
  have co₁ := co.store spec (fun r mem => (List.mem_append.1 mem).elim (co.readable r) fun new =>
    List.mem_singleton.1 new ▸ bindings) (co.jobs.append (fun _ => rfl) nofun)
  unfold createRecord
  rw [exec_bind_ok (exec_withStore_ok (·.createExport n) created)]
  by_cases cancel : e.cancelOnCreate = true
  case neg =>
    refine ⟨_, _, ?_, co₁⟩
    simp [cancel]
  case pos =>
    obtain ⟨s₂, request, -, -⟩ := co₁.stored.changeStatus_spec (n.record (lastId recs + 1) e.store.clock).id
      (.fail "cancelled")
    have failed := co₁.changeStatus (n.record (lastId recs + 1) e.store.clock).id (.fail "cancelled")
    rw [request] at failed
    refine ⟨_, _, ?_, failed⟩
    simp only [exec_get_bind]
    rw [if_pos cancel, exec_bind_ok (exec_withStore_ok (·.markFailed _ "cancelled") request)]
    rfl

/-- Creating and queueing a request whose bindings read back, retrying only a
stored record. The store may refuse the record; a record failed at once is
not dispatched; and a job is pushed only for a record the store has just
moved to Dispatched under the job's id. -/
theorem exec_createAndEnqueue (co : Coherent e recs) (n : NewExport) (bindings : BindingsReread n.queryBindings) :
    ∃ recs', Coherent ((createAndEnqueue n).exec e).2 recs' := by
  obtain ⟨-, spec⟩ := co.stored.createExport_spec n
  split at spec
  case isFalse =>
    -- the store refuses the record and nothing else happens
    obtain ⟨stores, err, refused⟩ := spec
    have failed : (createRecord n).exec e = (.error (.data err), { e with store := (e.store.createExport n).1 }) := by
      unfold createRecord
      exact exec_bind_error (exec_withStore_error (·.createExport n) (Prod.ext rfl refused))
    unfold createAndEnqueue
    rw [exec_bind_error failed]
    exact ⟨recs, co.same stores⟩
  case isTrue accepted =>
    obtain ⟨e₁, recs₁, made, co₁⟩ := co.exec_createRecord n accepted bindings
    let created := n.record (lastId recs + 1) e.store.clock
    let jobId := e₁.nextJobId
    have co₂ := co₁.issue (e₁.issued + 1)
    obtain ⟨s₃, request, -, -⟩ := co₂.stored.changeStatus_spec created.id (.dispatch jobId)
    have co₃ := co₂.changeStatus created.id (.dispatch jobId)
    rw [request] at co₃
    unfold createAndEnqueue
    rw [exec_bind_ok made, exec_bind_ok (exec_freshJobId _)]
    dsimp only
    rw [exec_bind_ok (exec_withStore_ok (e := { e₁ with issued := e₁.issued + 1 })
      (·.markDispatched created.id jobId) request)]
    cases granted : recs₁.any ((StatusChange.dispatch jobId).appliesTo created.id)
    · -- the record was failed before: no job
      simp only [Bool.false_eq_true, if_false]
      exact ⟨_, co₃⟩
    · -- the record moved to Dispatched under the job's id names the job
      obtain ⟨r, held, applies⟩ := List.any_eq_true.1 granted
      have own : r.id = created.id := by
        simp only [StatusChange.appliesTo, Bool.and_eq_true, beq_iff_eq] at applies
        exact applies.1
      have moved : r.changed e₁.store.clock (.dispatch jobId) ∈ recs₁.map fun q =>
          if (StatusChange.dispatch jobId).appliesTo created.id q then q.changed e₁.store.clock (.dispatch jobId)
          else q :=
        List.mem_map.2 ⟨r, held, by rw [if_pos applies]⟩
      have pushed := co₃.push moved ⟨jobId, created.queue, ExportJob.payload created.id, 0⟩
        (by rw [ExportRecord.id_changed, own]) rfl
      simp only [if_true, withQueue, exec_modify_bind]
      rw [exec_find_state pushed.stored]
      exact ⟨_, pushed⟩

/-- A dispatch whose compiled bindings read back. -/
theorem exec_dispatch (co : Coherent e recs) (d : ReportDefinition)
    (compiled : ∀ query, d.buildQuery = .ok query → BindingsReread query.compiled.bindings) :
    ∃ recs', Coherent ((dispatch d).exec e).2 recs' := by
  cases foreign : e.foreignConnection with
  | some c =>
    rw [Exporter.exec_dispatch_refused_connection d foreign]
    exact ⟨recs, co⟩
  | none =>
    cases built : d.buildQuery with
    | error err =>
      rw [Exporter.exec_dispatch_refused_query foreign built]
      exact ⟨recs, co⟩
    | ok query =>
      rw [Exporter.exec_dispatch foreign built]
      exact co.exec_createAndEnqueue _ (compiled query built)

/-- A retry: a failed record is dispatched again with its own bindings. -/
theorem exec_retry (co : Coherent e recs) (id : Int) : ∃ recs', Coherent ((retry id).exec e).2 recs' := by
  cases found : recs.find? (·.id == id) with
  | none =>
    rw [Exporter.exec_retry_missing co.stored co.readable found]
    exact ⟨recs, co⟩
  | some original =>
    by_cases failed : original.status = .failed
    case neg =>
      rw [Exporter.exec_retry_notRetryable co.stored co.readable found failed]
      exact ⟨recs, co⟩
    case pos =>
      cases foreign : e.foreignConnection with
      | some c =>
        rw [Exporter.exec_retry_refused_connection co.stored co.readable found failed foreign]
        exact ⟨recs, co⟩
      | none =>
        cases decoded : storedDescriptor original with
        | error err =>
          rw [Exporter.exec_retry_undecodable co.stored co.readable found failed foreign decoded]
          exact ⟨recs, co⟩
        | ok desc =>
          rw [Exporter.exec_retry co.stored co.readable found failed foreign decoded]
          exact co.exec_createAndEnqueue _ (co.readable original (List.mem_of_find?_eq_some found))

/-- Re-queueing Dispatched records pushes each one's job under its own job
id, and fails nowhere. -/
theorem exec_requeue : ∀ {e : Exporter} (l : List ExportRecord), Coherent e recs →
    (∀ r ∈ l, r ∈ recs ∧ r.status = .dispatched) →
      ∃ e', (requeue l).exec e = (.ok (), e') ∧ Coherent e' recs
  | e, [], co, _ => ⟨e, rfl, co⟩
  | e, r :: rest, co, listed => by
    obtain ⟨stored, dispatched⟩ := listed r List.mem_cons_self
    obtain ⟨jobId, named⟩ := Option.isSome_iff_exists.1 (co.jobs.assigned r stored dispatched)
    -- the record's own job id is used, not the fresh one
    have pushed := (co.issue (e.issued + 1)).push stored
      ⟨r.jobId.getD e.nextJobId, r.queue,
        ExportJob.payload r.id, 0⟩ rfl (by rw [named]; rfl)
    obtain ⟨e', requeued, co'⟩ := exec_requeue rest pushed fun q held => listed q (List.mem_cons_of_mem r held)
    refine ⟨e', ?_, co'⟩
    unfold requeue
    rw [exec_bind_ok (exec_freshJobId _)]
    simp only [withQueue, exec_modify_bind]
    exact requeued

/-- Recovery re-queues the Dispatched records, each under its own job id. -/
theorem exec_recoverDispatched (co : Coherent e recs) : ∃ recs', Coherent (recoverDispatched.exec e).2 recs' := by
  have listed := co.stored.listByStatus_spec co.readable .dispatched
  obtain ⟨e', requeued, co'⟩ := (co.same co.stored).exec_requeue (recs.filter fun r => r.status = .dispatched)
    fun r held => by simpa using List.mem_filter.1 held
  unfold recoverDispatched
  rw [exec_bind_ok (exec_withStore_ok (·.listByStatus .dispatched) listed), exec_bind_ok requeued]
  exact ⟨recs, co'⟩

/-! ## The worker's steps -/

/-- The failure hook fails at most one unfinished record. -/
theorem exec_markUnfinishedFailed (co : Coherent e recs) (id : Int) (error : String) :
    ∃ recs', Coherent ((markUnfinishedFailed id error).exec e).2 recs' := by
  have found := co.stored.getExport_spec co.readable id
  by_cases unfinished : ∃ record, recs.find? (·.id == id) = some record ∧ record.isFinished = false
  · obtain ⟨record, stored, unfinished⟩ := unfinished
    rw [stored] at found
    rw [markUnfinishedFailed_marks found unfinished]
    exact ⟨_, co.changeStatus id (.fail error)⟩
  · -- the hook only reads the store
    have settled : ∀ record, (Except.ok (recs.find? (·.id == id)) : Except StoreError _) = .ok (some record) →
        record.isFinished = true := by
      intro record given
      have stored : recs.find? (·.id == id) = some record := by injection given
      cases finished : record.isFinished
      · exact absurd ⟨record, stored, finished⟩ unfinished
      · rfl
    rw [markUnfinishedFailed_leaves found settled]
    exact ⟨recs, co⟩

/-- A run moves at most its own record, from Dispatched to Completed or
Failed, and keeps its job. -/
theorem exec_run (co : Coherent e recs) (id : Int) : ∃ recs', Coherent ((run id).exec e).2 recs' := by
  cases found : recs.find? (·.id == id) with
  | none =>
    rw [exec_run_missing co.stored co.readable found]
    exact ⟨recs, co⟩
  | some r =>
    by_cases dispatched : r.status = .dispatched
    · have held := List.mem_of_find?_eq_some found
      have own : r.id = id := by simpa using List.find?_some found
      subst own
      obtain ⟨r', ended, job, bindings⟩ :=
        exec_run_dispatched co.stored co.readable co.reads co.wellFormed held dispatched
      -- the run ends Completed or Failed
      have settled : r'.status ≠ .pending ∧ r'.status ≠ .dispatched := by
        rcases result : ((run r.id).exec e).1 with err | x
        · rw [ended.failed err result]
          exact ⟨nofun, nofun⟩
        · rw [(ended.completed x result).2.1]
          exact ⟨nofun, nofun⟩
      have readable' : r'.Readable := by
        unfold ExportRecord.Readable
        rw [bindings]
        exact co.readable r held
      exact ⟨_, co.frame ended.frame ended.stored (readable_withRecord co.readable readable')
        (co.jobs.withRecord co.stored held ⟨ended.own, job, .inr settled⟩) ended.wellFormed⟩
    · obtain ⟨s', refused, stores⟩ := exec_run_refused co.stored co.readable found dispatched
      rw [refused]
      exact ⟨recs, co.same stores⟩

/-- The state a run ends in, whatever its result. -/
theorem of_run (co : Coherent e recs) {id : Int} {result : Except ExportError ExportRecord} {e₁ : Exporter}
    (ran : (run id).exec e = (result, e₁)) : ∃ recs₁, Coherent e₁ recs₁ := by
  obtain ⟨recs₁, co₁⟩ := co.exec_run id
  rw [ran] at co₁
  exact ⟨recs₁, co₁⟩

/-- Processing a reserved job: its run, the failure hook, and its
acknowledgement or failure on the queue. -/
theorem exec_process (co : Coherent e recs) {job : QueuedJob} (reserved : job.id ∈ e.queue.reservedIds) :
    ∃ outcome e', (process job).exec e = (.ok outcome, e') ∧ ∃ recs', Coherent e' recs' := by
  obtain ⟨outcome, e', processed, settles⟩ := process_settles reserved
  refine ⟨outcome, e', processed, ?_⟩
  cases settles with
  | acked _ ran taken =>
    obtain ⟨recs₁, co₁⟩ := co.of_run ran
    exact ⟨recs₁, co₁.acked (by rw [(queueSide_run ran).1]; exact taken)⟩
  | refused _ ran _ taken =>
    obtain ⟨recs₁, co₁⟩ := co.of_run ran
    exact ⟨recs₁, co₁.failed (by rw [(queueSide_run ran).1]; exact taken)⟩
  | @hooked id err e₁ _ _ _ ran _ taken =>
    obtain ⟨recs₁, co₁⟩ := co.of_run ran
    obtain ⟨recs₂, co₂⟩ := co₁.exec_markUnfinishedFailed id err.message
    -- neither the run nor the hook touches the queue
    have kept : ((markUnfinishedFailed id err.message).exec e₁).2.queue = e.queue :=
      (congrArg Prod.fst (markUnfinishedFailed_keepsQueueSide id err.message e₁)).trans (queueSide_run ran).1
    exact ⟨recs₂, co₂.failed (by rw [kept]; exact taken)⟩
  | undecodable _ taken => exact ⟨recs, co.failed taken⟩

/-- Draining: each job a pop reserves is processed. -/
theorem exec_drainFor : ∀ (fuel : Nat) {e : Exporter} {recs : List ExportRecord}, Coherent e recs →
    ∃ recs', Coherent ((drainFor fuel).exec e).2 recs'
  | 0, e, recs, co => ⟨recs, co⟩
  | fuel + 1, e, recs, co => by
    have popped := co.queue (.pop e.queueSettings.name) nofun
    unfold drainFor
    rw [exec_bind_ok (exec_popJob e)]
    rcases taken : e.queue.pop e.queueSettings.name with ⟨_ | job, q₁⟩ <;>
      simp only [MemoryQueue.perform, taken] at popped
    · exact ⟨recs, popped⟩
    · -- the job popped is reserved; processing it keeps the state coherent, and so does the rest
      have reserved : job.id ∈ q₁.reservedIds := by
        obtain ⟨en, rest, -, named, rfl⟩ := MemoryQueue.pop_of_some taken
        simp [MemoryQueue.reservedIds, named]
      obtain ⟨outcome, e₂, processed, recs₂, co₂⟩ := popped.exec_process reserved
      have rest := exec_drainFor fuel co₂
      dsimp only
      rw [exec_bind_ok processed, exec_bind]
      rcases drained : (drainFor fuel).exec e₂ with ⟨_ | _, e₃⟩ <;> rw [drained] at rest <;> exact rest

end Coherent

/-! ## Calls of the service and of workers -/

/-- A call on the shared store and queue: the service's dispatch, retry and
recovery; a worker's run of an export and its failure hook; a worker's
requests of the queue, taking, waiting for, acknowledging or failing a job;
and a whole drain of the worker's queue. -/
inductive PipelineCall where
  | dispatch (d : ReportDefinition)
  | retry (id : Int)
  | recover
  | run (id : Int)
  | hook (id : Int) (error : String)
  | take (name : String)
  | wait (name : String) (timeoutMs : Nat)
  | ack (jobId : String)
  | fail (jobId : String) (error : String)
  | drain

namespace PipelineCall

/-- The action of a call, its result set aside. -/
def perform : PipelineCall → ExportM Unit
  | .dispatch d => discard (Exporter.dispatch d)
  | .retry id => discard (Exporter.retry id)
  | .recover => discard Exporter.recoverDispatched
  | .run id => discard (Exporter.run id)
  | .hook id error => Exporter.markUnfinishedFailed id error
  | .take name => withQueue (·.perform (.pop name))
  | .wait name timeoutMs => withQueue (·.perform (.wait name timeoutMs))
  | .ack jobId => withQueue (·.perform (.ack jobId))
  | .fail jobId error => withQueue (·.perform (.fail jobId error))
  | .drain => discard Exporter.drain

/-- What the store needs of a call to take it: a dispatched definition's
compiled bindings read back. -/
def Compiles : PipelineCall → Prop
  | .dispatch d => ∀ query, d.buildQuery = .ok query → BindingsReread query.compiled.bindings
  | _ => True

end PipelineCall

/-- The pipeline after a sequence of calls, each made whether the one before
it failed or not. -/
def Exporter.afterCalls (e : Exporter) : List PipelineCall → Exporter
  | [] => e
  | c :: cs => (c.perform.exec e).2.afterCalls cs

theorem ExportJob.payload_injective : Function.Injective ExportJob.payload := by
  intro a b same
  simpa [ExportJob.payload, Json.int] using same

theorem ExportM.exec_discard_state {α : Type} (m : ExportM α) (e : Exporter) :
    ((discard m).exec e).2 = (m.exec e).2 :=
  congrArg Prod.snd (exec_map _ m e)

namespace Coherent

variable {e : Exporter} {recs : List ExportRecord}

/-- Every call keeps the pipeline coherent. -/
theorem perform (co : Coherent e recs) (c : PipelineCall) (compiles : c.Compiles) :
    ∃ recs', Coherent (c.perform.exec e).2 recs' := by
  cases c with
  | dispatch d =>
    rw [PipelineCall.perform, exec_discard_state]
    exact co.exec_dispatch d compiles
  | retry id =>
    rw [PipelineCall.perform, exec_discard_state]
    exact co.exec_retry id
  | recover =>
    rw [PipelineCall.perform, exec_discard_state]
    exact co.exec_recoverDispatched
  | run id =>
    rw [PipelineCall.perform, exec_discard_state]
    exact co.exec_run id
  | hook id error => exact co.exec_markUnfinishedFailed id error
  | take name => exact ⟨recs, co.queue (.pop name) nofun⟩
  | wait name timeoutMs => exact ⟨recs, co.queue (.wait name timeoutMs) nofun⟩
  | ack jobId => exact ⟨recs, co.queue (.ack jobId) nofun⟩
  | fail jobId error => exact ⟨recs, co.queue (.fail jobId error) nofun⟩
  | drain =>
    rw [PipelineCall.perform, exec_discard_state, Exporter.drain, exec_get_bind]
    exact exec_drainFor _ co

/-- Every sequence of calls keeps the pipeline coherent. -/
theorem afterCalls : ∀ {e : Exporter} {recs : List ExportRecord}, Coherent e recs →
    ∀ calls : List PipelineCall, (∀ c ∈ calls, c.Compiles) → ∃ recs', Coherent (e.afterCalls calls) recs'
  | _, recs, co, [], _ => ⟨recs, co⟩
  | _, _, co, c :: cs, compiled => by
    obtain ⟨recs', co'⟩ := co.perform c (compiled c List.mem_cons_self)
    exact afterCalls co' cs fun c' held => compiled c' (List.mem_cons_of_mem c held)

/-- A pipeline whose queue holds nothing is coherent over records that read
back, none of them Pending with a job id or Dispatched without one. -/
theorem of_idle (hs : Stores e.store recs) (readable : ∀ r ∈ recs, r.Readable)
    (unassigned : ∀ r ∈ recs, r.status = .pending → r.jobId = none)
    (assigned : ∀ r ∈ recs, r.status = .dispatched → r.jobId.isSome)
    (idle : e.queue.queues = [] ∧ e.queue.reserved = []) (wf : e.files.WellFormed) (reads : e.ReportsRead) :
    Coherent e recs := by
  have empty : e.queue.heldJobs = 0 := by
    simp [MemoryQueue.heldJobs, MemoryQueue.queuedEntries, idle]
  have conserving : e.queue.Conserving :=
    ⟨by simp [idle], by simp [idle], by simp [MemoryQueue.live, MemoryQueue.queuedIds, MemoryQueue.queuedEntries,
      MemoryQueue.reservedIds, idle]⟩
  exact ⟨hs, readable, ⟨unassigned, assigned, by simp [empty]⟩, conserving, wf, reads⟩

/-- A job the queue holds with a stored record's id as payload has that
record's job id. -/
theorem jobId_of_payload (co : Coherent e recs) {r : ExportRecord} (stored : r ∈ recs) {j : QueuedJob}
    (held : j ∈ e.queue.heldJobs) (payload : j.payload = ExportJob.payload r.id) : r.jobId = some j.id := by
  obtain ⟨r', stored', payload', job⟩ := co.jobs.recorded j held
  -- the payload names one id, and one record has it
  have same : r' = r := co.stored.eq_of_id stored' stored (ExportJob.payload_injective (payload'.symm.trans payload))
  exact same ▸ job

end Coherent

/-! ## One job per export -/

open scoped Classical in
/-- After any sequence of calls from a pipeline whose queue holds nothing, the
queue holds, for every export id, at most one job with that id as payload,
and a job the queue holds for a stored record has the record's job id. -/
theorem one_live_job_per_export {e : Exporter} {recs : List ExportRecord} (hs : Stores e.store recs)
    (readable : ∀ r ∈ recs, r.Readable) (unassigned : ∀ r ∈ recs, r.status = .pending → r.jobId = none)
    (assigned : ∀ r ∈ recs, r.status = .dispatched → r.jobId.isSome)
    (idle : e.queue.queues = [] ∧ e.queue.reserved = []) (wf : e.files.WellFormed) (reads : e.ReportsRead)
    (calls : List PipelineCall) (compiled : ∀ c ∈ calls, c.Compiles) :
    ∃ recs', Stores (e.afterCalls calls).store recs' ∧
      (∀ x : Int, ((e.afterCalls calls).queue.heldJobs.filter fun j => j.payload = ExportJob.payload x).card ≤ 1) ∧
      ∀ r ∈ recs', ∀ j ∈ (e.afterCalls calls).queue.heldJobs, j.payload = ExportJob.payload r.id →
        r.jobId = some j.id := by
  obtain ⟨recs', co⟩ :=
    (Coherent.of_idle hs readable unassigned assigned idle wf reads).afterCalls calls compiled
  refine ⟨recs', co.stored, fun x => ?_, fun r stored j held payload => co.jobId_of_payload stored held payload⟩
  refine co.conserving.card_filter_le_one _ fun j held j' held' payload payload' => ?_
  -- both jobs are the job of the record their payload names
  obtain ⟨r, stored, named, -⟩ := co.jobs.recorded j held
  have first := co.jobId_of_payload stored held named
  have second := co.jobId_of_payload stored held' (payload'.trans (payload.symm.trans named))
  exact Option.some.inj (first.symm.trans second)

open scoped Classical in
/-- From a fresh store and an empty queue, recovery, a retry, a take and a
drain leave at most one job per export. -/
theorem fresh_pipeline_one_job_per_export :
    let e : Exporter :=
      { store := { conn := { db := storeSchema } }, queue := {}, storage := {}, disksHome := [],
        staging := ["staging"], registry := { kinds := [] } }
    let calls : List PipelineCall := [.recover, .retry 1, .take "exports", .drain]
    ∃ recs', Stores (e.afterCalls calls).store recs' ∧
      (∀ x : Int, ((e.afterCalls calls).queue.heldJobs.filter fun j => j.payload = ExportJob.payload x).card ≤ 1) ∧
      ∀ r ∈ recs', ∀ j ∈ (e.afterCalls calls).queue.heldJobs, j.payload = ExportJob.payload r.id →
        r.jobId = some j.id :=
  one_live_job_per_export stores_storeSchema (fun _ absent => absurd absent List.not_mem_nil)
    (fun _ absent => absurd absent List.not_mem_nil) (fun _ absent => absurd absent List.not_mem_nil) ⟨rfl, rfl⟩
    FileTree.wellFormed_empty (reportsRead_of_untabled List.not_mem_nil) _ (by simp [PipelineCall.Compiles])

end ReportExport
