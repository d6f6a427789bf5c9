import Mathlib.Algebra.Order.Group.Nat
import Mathlib.Algebra.Order.BigOperators.Group.List
import ReportExport.Proofs.Export.Frame
import ReportExport.Proofs.Queue.Delivery

/-!
# The worker settles each job once

A worker takes a job off its queue and processes it: it reads the export id
from the payload, runs the export, and settles the job with the queue. For a
job that is reserved, as every job the worker pops is, `process_settles`
gives what processing does over every state of the pipeline and every
outcome of the run (`Settles`):

* when the payload names a record and its run succeeds, the job is
  acknowledged and the outcome is the completed record;
* otherwise the job is handed back as failed, once, with the error's text,
  and the outcome names the export id exactly when the payload gave one;
  before that the failure hook runs unless the error is a refused status
  change, and the hook marks the record Failed only when the store finds it
  unfinished (`markUnfinishedFailed_marks`, `markUnfinishedFailed_leaves`).

Neither the run nor the hook touches the queue (`run_keepsQueueSide`), so the
acknowledgement or failure is the only queue request a job costs. Each job a
drain processes therefore lowers the deliveries its queue can still make
(`MemoryQueue.deliveryBudget`): a drain ends within that budget with no
visible job left (`drain_ends_within_budget`), and takes away every
reservation it makes (`worker_settles_each_job_once`).

A job's count of attempts is 32 bits wide. At its largest value the next
failure wraps it to zero, so such a job is allowed one delivery more than
the attempts setting; `drain_delivers_wrapped_job_twice` runs a drain over one
such job.
-/

namespace ReportExport

open ExportM

namespace MemoryQueue

/-! ## Settling a reserved job -/

theorem ack_ok_of_reserved {q : MemoryQueue} {id : String} (reserved : id ∈ q.reservedIds) :
    ∃ q', q.ack id = .ok q' := by
  unfold ack
  cases taken : q.unreserve id with
  | none => exact absurd reserved ((unreserve_eq_none_iff q id).1 taken)
  | some r => exact ⟨r.2, rfl⟩

theorem fail_ok_of_reserved {q : MemoryQueue} {id : String} (reserved : id ∈ q.reservedIds) (error : String) :
    ∃ d q', q.fail id error = .ok (d, q') := by
  unfold fail
  cases taken : q.unreserve id with
  | none => exact absurd reserved ((unreserve_eq_none_iff q id).1 taken)
  | some r =>
    dsimp only
    split
    · exact ⟨_, _, rfl⟩
    · exact ⟨_, _, rfl⟩

theorem reserved_ack {q q' : MemoryQueue} {id : String} (h : q.ack id = .ok q') :
    q'.reserved = q.reserved.filter (·.id != id) := by
  obtain ⟨-, -, -, rfl⟩ := ack_eq_ok h
  rfl

theorem reserved_fail {q q' : MemoryQueue} {id error : String} {d : FailureDisposition}
    (h : q.fail id error = .ok (d, q')) : q'.reserved = q.reserved.filter (·.id != id) := by
  obtain ⟨-, -, -, ⟨-, -, rfl⟩ | ⟨-, -, rfl⟩⟩ := fail_eq_ok h
  · exact reserved_enqueue _ _ _
  · rfl

/-- Right after a pop the popped job is the only reservation under its id. -/
theorem eq_of_mem_popped {l : List QueuedJob} {job j : QueuedJob} (held : j ∈ l.filter (·.id != job.id) ++ [job])
    (same : j.id = job.id) : j = job := by
  rcases List.mem_append.1 held with kept | last
  · simp [same] at kept
  · exact List.mem_singleton.1 last

/-- On a well-formed queue a popped job had no reservation before. -/
theorem Conserving.popped_fresh {q q₁ : MemoryQueue} {name : String} {job : QueuedJob} (c : q.Conserving)
    (popped : q.pop name = (some job, q₁)) : q.reserved.filter (·.id != job.id) = q.reserved := by
  rcases pop_cases q name with ⟨-, none⟩ | ⟨before, e, after, found, -, -, some⟩
  · rw [none] at popped
    cases popped
  rw [some] at popped
  obtain rfl := (Option.some.inj (Prod.mk.inj popped).1)
  have queued : e ∈ q.entries name := found ▸ List.mem_append_right _ List.mem_cons_self
  have fresh := c.not_reserved (mem_queuedEntries queued)
  refine List.filter_eq_self.2 fun r held => ?_
  have other : r.id ≠ e.job.id := fun same => fresh (same ▸ List.mem_map_of_mem held)
  simpa using other

/-! ## The deliveries left on a queue -/

/-- How many more deliveries a job can have: its attempts count up to
`m = max maxAttempts 1`, and a job on the queue is delivered at least once
more. A job at the largest 32-bit count wraps to no attempts at its next
failure, and then has `m` deliveries more. -/
def allowance (q : MemoryQueue) (job : QueuedJob) : Nat :=
  if job.attempts + 1 = 0 then (max q.maxAttempts 1).toNat + 1
  else max ((max q.maxAttempts 1).toNat - job.attempts.toNat) 1

/-- How many more deliveries the jobs on a named queue can have, together. -/
def deliveryBudget (q : MemoryQueue) (name : String) : Nat :=
  ((q.entries name).map fun en => q.allowance en.job).sum

theorem allowance_pos (q : MemoryQueue) (job : QueuedJob) : 0 < q.allowance job := by
  unfold allowance
  split <;> omega

/-- No job is allowed more than one delivery past the queue's setting. -/
theorem allowance_le (q : MemoryQueue) (job : QueuedJob) : q.allowance job ≤ (max q.maxAttempts 1).toNat + 1 := by
  unfold allowance
  split <;> omega

/-- A job released with one more attempt has one delivery fewer left, also
when its count wraps. -/
theorem allowance_released (q : MemoryQueue) (job : QueuedJob) (more : job.attempts + 1 < q.maxAttempts) :
    q.allowance { job with attempts := job.attempts + 1 } + 1 = q.allowance job := by
  -- in counts: the released count is below the setting, itself below `2 ^ 32`
  have below := UInt32.lt_iff_toNat_lt.1 more
  have top := UInt32.toNat_lt q.maxAttempts
  have count := UInt32.toNat_lt job.attempts
  have once := UInt32.toNat_add job.attempts 1
  have twice := UInt32.toNat_add (job.attempts + 1) 1
  unfold allowance
  simp only [← UInt32.toNat_inj, UInt32.toNat_zero, UInt32.toNat_one, UInt32.toNat_max] at once twice below ⊢
  split <;> split <;> omega

theorem deliveryBudget_enqueue (q : MemoryQueue) (job : QueuedJob) (visibleAt : Nat) (name : String) :
    (q.enqueue job visibleAt).deliveryBudget name =
      q.deliveryBudget name + if name = job.queue then q.allowance job else 0 := by
  have attempts : (q.enqueue job visibleAt).maxAttempts = q.maxAttempts :=
    congrArg Prod.fst (policy_enqueue q job visibleAt)
  unfold deliveryBudget allowance
  rw [attempts]
  by_cases same : name = job.queue
  · subst same
    simp [entries_enqueue_self]
  · simp [same, entries_enqueue_of_ne _ _ _ same]

/-- A pop takes the popped job's allowance out of the budget and makes it the
only reservation under its id. -/
theorem deliveryBudget_pop {q q₁ : MemoryQueue} {name : String} {job : QueuedJob}
    (popped : q.pop name = (some job, q₁)) :
    q₁.deliveryBudget name + q₁.allowance job = q.deliveryBudget name ∧
      q₁.reserved = q.reserved.filter (·.id != job.id) ++ [job] := by
  rcases pop_cases q name with ⟨-, none⟩ | ⟨before, e, after, found, -, -, some⟩
  · rw [none] at popped
    cases popped
  rw [some] at popped
  simp only [Prod.mk.injEq, Option.some.injEq] at popped
  obtain ⟨rfl, rfl⟩ := popped
  have attempts : (q.setEntries name (before ++ after)).maxAttempts = q.maxAttempts :=
    congrArg Prod.fst (policy_setEntries q name (before ++ after))
  refine ⟨?_, by simp⟩
  -- the reservation is not part of the budget
  show (q.setEntries name (before ++ after)).deliveryBudget name + (q.setEntries name (before ++ after)).allowance e.job = _
  unfold deliveryBudget allowance
  rw [entries_setEntries, if_pos rfl, found, attempts]
  simp only [List.map_append, List.map_cons, List.sum_append, List.sum_cons]
  omega

/-- Settling the job a pop reserved: an acknowledgement keeps the budget, a
failure lowers it by one at least, and either takes the reservation away. -/
theorem deliveryBudget_settle {q q' : MemoryQueue} {l : List QueuedJob} {job : QueuedJob} (name : String)
    (held : q.reserved = l.filter (·.id != job.id) ++ [job])
    (settled : (q.ack job.id = .ok q') ∨ ∃ error d, q.fail job.id error = .ok (d, q')) :
    q'.deliveryBudget name < q.deliveryBudget name + q.allowance job ∧ q'.reserved = l.filter (·.id != job.id) := by
  have gone : q.reserved.filter (·.id != job.id) = l.filter (·.id != job.id) := by
    simp [held, List.filter_append, List.filter_filter]
  rcases settled with acked | ⟨error, d, failed⟩
  · refine ⟨?_, (reserved_ack acked).trans gone⟩
    obtain ⟨-, -, -, rfl⟩ := ack_eq_ok acked
    exact Nat.lt_add_of_pos_right (allowance_pos q job)
  refine ⟨?_, (reserved_fail failed).trans gone⟩
  obtain ⟨j, mem, same, ⟨more, -, rfl⟩ | ⟨-, -, rfl⟩⟩ := fail_eq_ok failed
  · -- the released copy goes back with one attempt more, one delivery fewer
    obtain rfl := eq_of_mem_popped (held ▸ mem) same
    rw [deliveryBudget_enqueue]
    have fewer := allowance_released q j more
    show q.deliveryBudget name + (if name = j.queue then q.allowance { j with attempts := j.attempts + 1 } else 0) <
      q.deliveryBudget name + q.allowance j
    split <;> omega
  · exact Nat.lt_add_of_pos_right (allowance_pos q job)

end MemoryQueue

namespace Exporter

/-! ## Equations of the worker's requests -/


theorem exec_withStore {α : Type} (f : Store.RecordStore → Store.Outcome α) (e : Exporter) :
    (withStore f).exec e = ((f e.store).2.mapError .data, { e with store := (f e.store).1 }) := by
  unfold withStore
  rcases h : f e.store with ⟨s, r⟩
  simp only [exec_get_bind, h, exec_set_bind, exec_fromExcept]

theorem exec_withQueueResult_ok {α : Type} {f : MemoryQueue → Except QueueError (α × MemoryQueue)} {e : Exporter}
    {a : α} {q : MemoryQueue} (h : f e.queue = .ok (a, q)) :
    (withQueueResult f).exec e = (.ok a, { e with queue := q }) := by
  unfold withQueueResult
  simp only [bind_pure_comp, exec_get_bind, h, exec_map, exec_set, Prod.mk.injEq, and_true]
  rfl

theorem exec_ackJob {e : Exporter} {id : String} {q : MemoryQueue} (acked : e.queue.ack id = .ok q) :
    (withQueueResult fun q => (q.ack id).map ((), ·)).exec e = (.ok (), { e with queue := q }) :=
  exec_withQueueResult_ok (by rw [acked]; rfl)

theorem exec_failJob {e : Exporter} {id error : String} {d : FailureDisposition} {q : MemoryQueue}
    (failed : e.queue.fail id error = .ok (d, q)) :
    (withQueueResult fun q => q.fail id error).exec e = (.ok d, { e with queue := q }) :=
  exec_withQueueResult_ok failed

theorem exec_withStore_ok {α : Type} (f : Store.RecordStore → Store.Outcome α) {e : Exporter}
    {s : Store.RecordStore} {a : α} (h : f e.store = (s, .ok a)) :
    (withStore f).exec e = (.ok a, { e with store := s }) := by
  rw [exec_withStore, h]
  rfl

theorem exec_withStore_error {α : Type} (f : Store.RecordStore → Store.Outcome α) {e : Exporter}
    {s : Store.RecordStore} {err : Store.StoreError} (h : f e.store = (s, .error err)) :
    (withStore f).exec e = (.error (.data err), { e with store := s }) := by
  rw [exec_withStore, h]
  rfl

theorem exec_popJob (e : Exporter) :
    popJob.exec e =
      (.ok (e.queue.pop e.queueSettings.name).1, { e with queue := (e.queue.pop e.queueSettings.name).2 }) := by
  unfold popJob
  simp only [bind_pure_comp, exec_get_bind, exec_map, exec_set, Prod.mk.injEq, and_true]
  rfl

/-! ## The failure hook -/

/-- The failure hook marks a record Failed when the store finds it unfinished. -/
theorem markUnfinishedFailed_marks {e : Exporter} {id : Int} {error : String} {s₁ : Store.RecordStore}
    {record : ExportRecord} (found : e.store.getExport id = (s₁, .ok (some record)))
    (unfinished : record.isFinished = false) :
    (markUnfinishedFailed id error).exec e = (.ok (), { e with store := (s₁.markFailed id error).1 }) := by
  unfold markUnfinishedFailed
  simp only [Bool.not_eq_eq_eq_not, Bool.not_true, bind_pure_comp, exec_bind, exec_attempt,
    exec_withStore_ok (·.getExport id) found, unfinished, ↓reduceIte, exec_map, exec_withStore, Prod.mk.injEq, and_true]
  rfl

/-- Otherwise it only reads the store. -/
theorem markUnfinishedFailed_leaves {e : Exporter} {id : Int} {error : String} {s₁ : Store.RecordStore}
    {r : Except Store.StoreError (Option ExportRecord)} (found : e.store.getExport id = (s₁, r))
    (settled : ∀ record, r = .ok (some record) → record.isFinished = true) :
    (markUnfinishedFailed id error).exec e = (.ok (), { e with store := s₁ }) := by
  unfold markUnfinishedFailed
  rcases r with err | _ | record
  · simp only [bind_pure_comp, exec_bind, exec_attempt, exec_withStore_error (·.getExport id) found, exec_pure]
  · simp only [bind_pure_comp, exec_bind, exec_attempt, exec_withStore_ok (·.getExport id) found, exec_pure]
  · simp only [Bool.not_eq_eq_eq_not, Bool.not_true, bind_pure_comp, exec_bind, exec_attempt,
      exec_withStore_ok (·.getExport id) found, settled record rfl, Bool.true_eq_false, ↓reduceIte, exec_pure]

/-- The failure hook never fails. -/
theorem exec_markUnfinishedFailed (e : Exporter) (id : Int) (error : String) :
    (markUnfinishedFailed id error).exec e = (.ok (), ((markUnfinishedFailed id error).exec e).2) := by
  rcases found : e.store.getExport id with ⟨s₁, r⟩
  by_cases unfinished : ∃ record, r = .ok (some record) ∧ record.isFinished = false
  · obtain ⟨record, rfl, unfinished⟩ := unfinished
    rw [markUnfinishedFailed_marks found unfinished]
  · have leaves : (markUnfinishedFailed id error).exec e = (.ok (), { e with store := s₁ }) :=
      markUnfinishedFailed_leaves found fun record same => by simpa [same] using unfinished
    rw [leaves]

/-! ## Processing one job -/

/-- How processing settles a job taken in the state `e`: acknowledged after
its run succeeds, or else failed once with the error's text, the failure
hook having run first when the payload named a record and the error is not a
refused status change. The queue is settled as it was when processing began. -/
inductive Settles (e : Exporter) (job : QueuedJob) : JobOutcome → Exporter → Prop
  | acked {id : Int} {record : ExportRecord} {e₁ : Exporter} {q : MemoryQueue}
      (decoded : decodeValue job.payload ExportJob.decode = .ok id) (ran : (run id).exec e = (.ok record, e₁))
      (acked : e.queue.ack job.id = .ok q) :
      Settles e job (.completed record) { e₁ with queue := q }
  | refused {id : Int} {err : ExportError} {e₁ : Exporter} {d : FailureDisposition} {q : MemoryQueue}
      (decoded : decodeValue job.payload ExportJob.decode = .ok id) (ran : (run id).exec e = (.error err, e₁))
      (refused : err.isInvalidTransition = true) (failed : e.queue.fail job.id err.message = .ok (d, q)) :
      Settles e job (.failed (some id) err.message d) { e₁ with queue := q }
  | hooked {id : Int} {err : ExportError} {e₁ : Exporter} {d : FailureDisposition} {q : MemoryQueue}
      (decoded : decodeValue job.payload ExportJob.decode = .ok id) (ran : (run id).exec e = (.error err, e₁))
      (hooked : err.isInvalidTransition = false) (failed : e.queue.fail job.id err.message = .ok (d, q)) :
      Settles e job (.failed (some id) err.message d)
        { ((markUnfinishedFailed id err.message).exec e₁).2 with queue := q }
  | undecodable {m : String} {d : FailureDisposition} {q : MemoryQueue}
      (undecoded : decodeValue job.payload ExportJob.decode = .error m)
      (failed : e.queue.fail job.id (ExportError.queue (.payload m)).message = .ok (d, q)) :
      Settles e job (.failed none (ExportError.queue (.payload m)).message d) { e with queue := q }

theorem queueSide_run {id : Int} {e e₁ : Exporter} {r : Except ExportError ExportRecord}
    (ran : (run id).exec e = (r, e₁)) : e₁.queue = e.queue ∧ e₁.queueSettings = e.queueSettings := by
  have kept := run_keepsQueueSide id e
  rw [ran] at kept
  exact Prod.mk.inj kept

/-- Processing a reserved job never fails: it settles the job. -/
theorem process_settles {e : Exporter} {job : QueuedJob} (reserved : job.id ∈ e.queue.reservedIds) :
    ∃ outcome e', (process job).exec e = (.ok outcome, e') ∧ Settles e job outcome e' := by
  cases decoded : decodeValue job.payload ExportJob.decode with
  | error m =>
    obtain ⟨d, q, failed⟩ := MemoryQueue.fail_ok_of_reserved reserved (ExportError.queue (.payload m)).message
    refine ⟨_, _, ?_, .undecodable decoded failed⟩
    unfold process
    simp only [decoded, exec_bind, exec_pure, exec_failJob failed]
  | ok id =>
    -- the run leaves the queue as it found it, so the job is still reserved after it
    rcases ran : (run id).exec e with ⟨err | record, e₁⟩
    · obtain ⟨d, q, failed⟩ := MemoryQueue.fail_ok_of_reserved reserved err.message
      have kept : e₁.queue = e.queue := (queueSide_run ran).1
      cases refusal : err.isInvalidTransition
      · refine ⟨_, _, ?_, .hooked decoded ran refusal failed⟩
        have hooked : ((markUnfinishedFailed id err.message).exec e₁).2.queue = e.queue :=
          (congrArg Prod.fst (markUnfinishedFailed_keepsQueueSide id err.message e₁)).trans kept
        rw [← hooked] at failed
        unfold process
        simp only [decoded, exec_bind, exec_attempt, ran, exec_pure, refusal, Bool.false_eq_true, ↓reduceIte,
          exec_bind_ok (exec_markUnfinishedFailed e₁ id err.message), exec_failJob failed]
      · refine ⟨_, _, ?_, .refused decoded ran refusal failed⟩
        rw [← kept] at failed
        unfold process
        simp only [decoded, exec_bind, exec_attempt, ran, exec_pure, refusal, ↓reduceIte, exec_failJob failed]
    · obtain ⟨q, acked⟩ := MemoryQueue.ack_ok_of_reserved reserved
      refine ⟨_, _, ?_, .acked decoded ran acked⟩
      rw [← (queueSide_run ran).1] at acked
      unfold process
      simp only [decoded, exec_bind, exec_attempt, ran, exec_pure, exec_ackJob acked]

/-- Processing makes one queue request for the job: its acknowledgement or
its failure, on the queue as processing found it. -/
theorem Settles.queue {e e' : Exporter} {job : QueuedJob} {outcome : JobOutcome} (settled : Settles e job outcome e') :
    e.queue.ack job.id = .ok e'.queue ∨ ∃ error d, e.queue.fail job.id error = .ok (d, e'.queue) := by
  cases settled with
  | acked _ _ acked => exact .inl acked
  | refused _ _ _ failed => exact .inr ⟨_, _, failed⟩
  | hooked _ _ _ failed => exact .inr ⟨_, _, failed⟩
  | undecodable _ failed => exact .inr ⟨_, _, failed⟩

theorem Settles.queueSettings {e e' : Exporter} {job : QueuedJob} {outcome : JobOutcome}
    (settled : Settles e job outcome e') : e'.queueSettings = e.queueSettings := by
  cases settled with
  | acked _ ran _ => exact (queueSide_run ran).2
  | refused _ ran _ _ => exact (queueSide_run ran).2
  | hooked _ ran _ _ =>
    exact (congrArg Prod.snd (markUnfinishedFailed_keepsQueueSide _ _ _)).trans (queueSide_run ran).2
  | undecodable _ _ => rfl

/-! ## Draining -/

/-- One round of a drain: the job a pop reserves is processed; settling it
lowers the budget and takes the reservation away. -/
theorem round_settles {e : Exporter} {job : QueuedJob} {q₁ : MemoryQueue}
    (popped : e.queue.pop e.queueSettings.name = (some job, q₁)) :
    ∃ outcome e', (process job).exec { e with queue := q₁ } = (.ok outcome, e') ∧
      e'.queueSettings = e.queueSettings ∧
      e'.queue.deliveryBudget e.queueSettings.name < e.queue.deliveryBudget e.queueSettings.name ∧
      e'.queue.reserved = e.queue.reserved.filter (·.id != job.id) ∧
      (e.queue.Conserving → e'.queue.Conserving) := by
  obtain ⟨budget, held⟩ := MemoryQueue.deliveryBudget_pop popped
  have reserved : job.id ∈ ({ e with queue := q₁ } : Exporter).queue.reservedIds :=
    List.mem_map_of_mem (held ▸ List.mem_append_right _ (List.mem_singleton_self job))
  obtain ⟨outcome, e', processed, settled⟩ := process_settles reserved
  obtain ⟨fewer, released⟩ := MemoryQueue.deliveryBudget_settle e.queueSettings.name held settled.queue
  refine ⟨outcome, e', processed, settled.queueSettings, by omega, released, fun c => ?_⟩
  have c₁ : q₁.Conserving := by simpa [popped] using (c.pop e.queueSettings.name).2
  rcases settled.queue with acked | ⟨error, d, failed⟩
  · exact (c₁.ack acked).2
  · exact (c₁.fail failed).1

/-- The fuel a drain is given covers its queue's delivery budget. -/
theorem deliveryBudget_le_deliveriesLeft (e : Exporter) :
    e.queue.deliveryBudget e.queueSettings.name ≤ deliveriesLeft e := by
  unfold deliveriesLeft MemoryQueue.deliveryBudget
  rw [← List.length_map (f := fun en => e.queue.allowance en.job)]
  exact List.sum_le_card_nsmul _ _ fun n mem => by
    obtain ⟨en, -, rfl⟩ := List.mem_map.1 mem
    exact MemoryQueue.allowance_le e.queue en.job

/-- What a drain leaves: no more outcomes than the budget it started with, no
visible job, the worker's settings, and only reservations it found, all of
them when the queue was well formed. -/
structure Drained (e : Exporter) (outcomes : List JobOutcome) (e' : Exporter) : Prop where
  within : outcomes.length ≤ e.queue.deliveryBudget e.queueSettings.name
  idle : (e'.queue.pop e.queueSettings.name).1 = none
  settings : e'.queueSettings = e.queueSettings
  released : e'.queue.reserved.Sublist e.queue.reserved
  kept : e.queue.Conserving → e'.queue.reserved = e.queue.reserved

theorem drainFor_drains : ∀ (fuel : Nat) (e : Exporter), e.queue.deliveryBudget e.queueSettings.name < fuel →
    ∃ outcomes e', (drainFor fuel).exec e = (.ok outcomes, e') ∧ Drained e outcomes e'
  | 0, _, enough => absurd enough (Nat.not_lt_zero _)
  | fuel + 1, e, enough => by
    rcases popped : e.queue.pop e.queueSettings.name with ⟨_ | job, q₁⟩
    · -- nothing visible: the drain stops here
      refine ⟨[], e, ?_, ⟨Nat.zero_le _, by rw [popped], rfl, List.Sublist.refl _, fun _ => rfl⟩⟩
      unfold drainFor
      simp only [exec_bind, exec_popJob, popped, MemoryQueue.pop_of_none popped, exec_pure]
    · obtain ⟨outcome, e₁, processed, settings, fewer, released, conserving⟩ := round_settles popped
      obtain ⟨outcomes, e', rest, drained⟩ := drainFor_drains fuel e₁ (by rw [settings]; omega)
      have within := drained.within
      have idle := drained.idle
      rw [settings] at within idle
      refine ⟨outcome :: outcomes, e', ?_, ⟨?_, idle, drained.settings.trans settings, ?_, fun c => ?_⟩⟩
      · unfold drainFor
        simp only [bind_pure_comp, exec_bind, exec_popJob, popped, processed, exec_map_ok rest]
      · simp only [List.length_cons]
        omega
      · exact drained.released.trans (released ▸ List.filter_sublist)
      · rw [drained.kept (conserving c), released]
        exact MemoryQueue.Conserving.popped_fresh c popped

/-- Draining ends, without an error, after at most as many jobs as its queue's
delivery budget, and with no job left visible. -/
theorem drain_ends_within_budget (e : Exporter) :
    ∃ outcomes e', drain.exec e = (.ok outcomes, e') ∧
      outcomes.length ≤ e.queue.deliveryBudget e.queueSettings.name ∧
      (e'.queue.pop e.queueSettings.name).1 = none := by
  obtain ⟨outcomes, e', drained, result⟩ :=
    drainFor_drains (deliveriesLeft e + 1) e (Nat.lt_succ_of_le (deliveryBudget_le_deliveriesLeft e))
  refine ⟨outcomes, e', ?_, result.within, result.idle⟩
  unfold drain
  rw [exec_get_bind, drained]

/-- A job at the largest 32-bit count whose payload names no export. -/
def wrappedJob : QueuedJob :=
  { id := "j", queue := "default", payload := .null, attempts := 4294967295 }

/-- A pipeline whose queue allows one delivery and holds only `wrappedJob`. -/
def wrappedJobPipeline : Exporter :=
  { store := default, queue := { MemoryQueue.create 1 0 with queues := [("default", [⟨wrappedJob, 0⟩])] },
    storage := {}, disksHome := [], staging := [], registry := { kinds := [] } }

/-- The job's first failure wraps its count to zero, below the one delivery
allowed, so the queue releases it and the drain delivers it again: two
outcomes, where `max (m - attempts) 1` over the queued jobs is one. -/
theorem drain_delivers_wrapped_job_twice :
    ((wrappedJobPipeline.queue.entries "default").map fun en =>
        max ((max wrappedJobPipeline.queue.maxAttempts 1).toNat - en.job.attempts.toNat) 1).sum = 1 ∧
      (drain.exec wrappedJobPipeline).1.toOption.map List.length = some 2 :=
  ⟨by decide, by decide⟩

/-- Processing settles a reserved job once, by acknowledgement exactly when
its payload decoded and its run succeeded and otherwise by one failure with
the error's text; the failure hook marks a record Failed only when the store
finds it unfinished; and a drain takes away every reservation it makes. -/
theorem worker_settles_each_job_once (e : Exporter) :
    (∀ job : QueuedJob, job.id ∈ e.queue.reservedIds →
      ∃ outcome e', (process job).exec e = (.ok outcome, e') ∧ Settles e job outcome e') ∧
    (∀ (id : Int) (error : String) (s₁ : Store.RecordStore) (record : ExportRecord),
      e.store.getExport id = (s₁, .ok (some record)) → record.isFinished = false →
      (markUnfinishedFailed id error).exec e = (.ok (), { e with store := (s₁.markFailed id error).1 })) ∧
    (∀ (id : Int) (error : String) (s₁ : Store.RecordStore) (r : Except Store.StoreError (Option ExportRecord)),
      e.store.getExport id = (s₁, r) → (∀ record, r = .ok (some record) → record.isFinished = true) →
      (markUnfinishedFailed id error).exec e = (.ok (), { e with store := s₁ })) ∧
    ∃ outcomes e', drain.exec e = (.ok outcomes, e') ∧ e'.queue.reserved.Sublist e.queue.reserved ∧
      (e.queue.Conserving → e'.queue.reserved = e.queue.reserved) := by
  refine ⟨fun _ reserved => process_settles reserved, fun _ _ _ _ found unfinished =>
    markUnfinishedFailed_marks found unfinished, fun _ _ _ _ found settled => markUnfinishedFailed_leaves found settled,
    ?_⟩
  obtain ⟨outcomes, e', drained, result⟩ :=
    drainFor_drains (deliveriesLeft e + 1) e (Nat.lt_succ_of_le (deliveryBudget_le_deliveriesLeft e))
  refine ⟨outcomes, e', ?_, result.released, result.kept⟩
  unfold drain
  rw [exec_get_bind, drained]

end Exporter

end ReportExport
