import ReportExport.Proofs.Export.Dispatch

/-!
# One run owns a record

Runs of one export id, by duplicate deliveries, two workers or a run again
after the record finished, race on one guarded update: moving the record
from Dispatched to Processing. However their repository requests interleave,
they make one sequence of requests to the store, and along any such sequence
that update is granted at most once for an id (`Stores.startsGranted_le_one`): a
record leaves Dispatched for good, since no status leads back to it.

A run that is not granted the update fails with `invalidTransition` (or
`notFound` when there is no record) before it writes anything, and a worker
that meets such a failure settles the job without marking the record: the
records stay as they were (`exec_run_refused`, `exec_process_refused`).
How runs interleave request by request is in `Proofs/Export/Interleaving`.
-/

namespace ReportExport

open Sql Store ExportM

/-! ## Starts granted along a sequence of requests -/

/-- Whether a record in this status may still be started: it has not left
Dispatched. -/
def ExportStatus.mayStart : ExportStatus → Bool
  | .pending | .dispatched => true
  | _ => false

/-- Whether a request starts the record of an id. -/
def StoreRequest.startsId (id : Int) : StoreRequest → Bool
  | .change i .start => i == id
  | _ => false

/-- How many requests of a sequence start the record of an id and are
granted, each on the store the earlier ones leave. -/
def startsGranted (id : Int) : RecordStore → List StoreRequest → Nat
  | _, [] => 0
  | s, q :: qs =>
    (if q.startsId id && ((s.changeStatus id .start).2.toOption.getD false) then 1 else 0) +
      startsGranted id (q.perform s) qs

/-- How many more starts records may be granted for an id: none once the
record of the id has left Dispatched, one before. -/
def startsLeft (id : Int) (recs : List ExportRecord) : Nat :=
  if recs.any fun r => r.id == id && !r.status.mayStart then 0 else 1

theorem startsLeft_le_one (id : Int) (recs : List ExportRecord) : startsLeft id recs ≤ 1 := by
  unfold startsLeft
  split <;> omega

/-- A record that has left Dispatched does not come back to it. -/
theorem mayStart_of_follows {r r' : ExportRecord} (follows : r.Follows r') (left : r.status.mayStart = false) :
    r'.status.mayStart = false := by
  obtain ⟨-, moved, -⟩ := follows
  rcases moved with same | edge
  · rw [same, left]
  · revert left edge
    cases r.status <;> cases r'.status <;> decide

/-- Every record a request finds has a record following it afterwards. -/
theorem Evolves.follower {recs recs' : List ExportRecord} (evolves : Evolves recs recs') {r : ExportRecord}
    (held : r ∈ recs) : ∃ r' ∈ recs', r.Follows r' := by
  obtain ⟨moved, added, rfl, forall₂, -⟩ := evolves
  revert held
  induction forall₂ with
  | nil => intro held; cases held
  | @cons a b l₁ l₂ follows _ ih =>
    intro held
    rcases List.mem_cons.1 held with rfl | later
    · exact ⟨b, List.mem_append_left _ List.mem_cons_self, follows⟩
    · obtain ⟨r', mem, f⟩ := ih later
      rcases List.mem_append.1 mem with old | new
      · exact ⟨r', List.mem_append_left _ (List.mem_cons_of_mem _ old), f⟩
      · exact ⟨r', List.mem_append_right _ new, f⟩

/-- The starts left never grow: every record follows its status graph. -/
theorem startsLeft_evolves {recs recs' : List ExportRecord} (evolves : Evolves recs recs') (id : Int) :
    startsLeft id recs' ≤ startsLeft id recs := by
  unfold startsLeft
  by_cases started : recs.any fun r => r.id == id && !r.status.mayStart
  · -- the record that left Dispatched is followed by one that has left it too
    obtain ⟨r, held, own⟩ := List.any_eq_true.1 started
    obtain ⟨r', held', follows⟩ := evolves.follower held
    simp only [Bool.and_eq_true, beq_iff_eq, Bool.not_eq_eq_eq_not, Bool.not_true] at own
    have still : (recs'.any fun r => r.id == id && !r.status.mayStart) = true :=
      List.any_eq_true.2 ⟨r', held', by simp [follows.1, own.1, mayStart_of_follows follows own.2]⟩
    simp [still]
  · simp [started]
    split <;> omega

namespace Stores

variable {s : RecordStore} {recs : List ExportRecord}

/-- A granted start finds the record of the id Dispatched, so one start was
left, and leaves it Processing, so none is. -/
theorem start_granted (hs : Stores s recs) (agree : ∀ r ∈ recs, r.StampsAgree) {id : Int}
    (granted : (s.changeStatus id .start).2 = .ok true) :
    startsLeft id recs = 1 ∧ ∃ recs', Stores (s.changeStatus id .start).1 recs' ∧ (∀ r ∈ recs', r.StampsAgree) ∧
      startsLeft id recs' = 0 := by
  obtain ⟨s', request, stores, -⟩ := hs.changeStatus_spec id .start
  rw [request] at granted
  obtain ⟨r, held, applies⟩ := List.any_eq_true.1 (Except.ok.inj granted)
  have own : r.id = id ∧ r.status = .dispatched := by
    simpa [StatusChange.appliesTo, StatusChange.target, ExportStatus.canTransitionTo, ExportStatus.predecessors]
      using applies
  refine ⟨?_, _, by rw [request]; exact stores, fun r' mem => ?_, ?_⟩
  · -- the record of the id is the one that applies, and it may start
    have none : (recs.any fun q => q.id == id && !q.status.mayStart) = false := by
      refine List.any_eq_false.2 fun q hq => ?_
      by_cases same : q.id = id
      · obtain rfl := hs.eq_of_id hq held (same.trans own.1.symm)
        simp [own.2, ExportStatus.mayStart]
      · simp [same]
    simp [startsLeft, none]
  · obtain ⟨q, old, rfl⟩ := List.mem_map.1 mem
    split
    · rename_i applies
      simp only [StatusChange.appliesTo, Bool.and_eq_true] at applies
      exact (agree q old).changed s.clock applies.2
    · exact agree q old
  · have started : ((recs.map fun q => if StatusChange.start.appliesTo id q then q.changed s.clock .start else q).any
        fun q => q.id == id && !q.status.mayStart) = true :=
      List.any_eq_true.2 ⟨r.changed s.clock .start, List.mem_map.2 ⟨r, held, by simp [applies]⟩, by
        simp [own.1, ExportRecord.status_changed, StatusChange.target, ExportStatus.mayStart]⟩
    simp [startsLeft, started]

/-- Along any sequence of requests, the starts granted for an id are at most
the starts left for it. -/
theorem startsGranted_le (hs : Stores s recs) (agree : ∀ r ∈ recs, r.StampsAgree) (id : Int)
    (qs : List StoreRequest) : startsGranted id s qs ≤ startsLeft id recs := by
  induction qs generalizing s recs with
  | nil => exact Nat.zero_le _
  | cons q qs ih =>
    obtain ⟨recs', hs', -, evolves, agree', -⟩ := hs.step agree q
    by_cases starts : q.startsId id && ((s.changeStatus id .start).2.toOption.getD false)
    · -- the request is a granted start: it uses the one start left
      have request : q = .change id .start := by
        cases q with
        | change i c =>
          cases c <;> simp_all [StoreRequest.startsId]
        | _ => simp [StoreRequest.startsId] at starts
      have granted : (s.changeStatus id .start).2 = .ok true := by
        simp only [Bool.and_eq_true] at starts
        revert starts
        cases (s.changeStatus id .start).2 with
        | error => simp [Except.toOption]
        | ok b => cases b <;> simp [Except.toOption]
      obtain ⟨one, recs₁, hs₁, agree₁, none⟩ := hs.start_granted agree granted
      subst request
      have rest := ih hs₁ agree₁
      simp only [startsGranted, starts, if_true, StoreRequest.perform] at rest ⊢
      omega
    · have rest := ih hs' agree'
      have fewer := startsLeft_evolves evolves id
      simp only [startsGranted, starts, Bool.false_eq_true, if_false]
      omega

/-- Along any sequence of requests, the start of a record is granted at most
once. -/
theorem startsGranted_le_one (hs : Stores s recs) (agree : ∀ r ∈ recs, r.StampsAgree) (id : Int)
    (qs : List StoreRequest) : startsGranted id s qs ≤ 1 :=
  (hs.startsGranted_le agree id qs).trans (startsLeft_le_one id recs)

/-- The start of a record that has not reached Dispatched, or has left it,
is refused and changes no record. -/
theorem markProcessing_refused (hs : Stores s recs) (id : Int)
    (unstarted : ∀ r ∈ recs, r.id = id → r.status ≠ .dispatched) :
    ∃ s', s.markProcessing id = (s', .ok false) ∧ Stores s' recs ∧ s'.clock = s.clock := by
  obtain ⟨s', request, stores, clock⟩ := hs.changeStatus_spec id .start
  have none : ∀ r ∈ recs, StatusChange.start.appliesTo id r = false := by
    intro r held
    by_cases own : r.id = id
    · have waiting := unstarted r held own
      revert waiting
      simp only [StatusChange.appliesTo, own, beq_self_eq_true, Bool.true_and, StatusChange.target]
      cases r.status <;> decide
    · simp [StatusChange.appliesTo, own]
  have any : recs.any (StatusChange.start.appliesTo id) = false :=
    List.any_eq_false.2 fun r held => by simp [none r held]
  have same : (recs.map fun r => if StatusChange.start.appliesTo id r then r.changed s.clock .start else r) = recs := by
    rw [List.map_congr_left (g := fun r => r) fun r held => by simp [none r held], List.map_id']
  rw [any] at request
  rw [same] at stores
  exact ⟨s', request, stores, clock⟩

end Stores

namespace Exporter

variable {e : Exporter} {recs : List ExportRecord}

/-! ## Runs refused -/

section Refused

variable (hs : Stores e.store recs) (readable : ∀ r ∈ recs, r.Readable) {id : Int}

include hs readable

theorem exec_run_missing (missing : recs.find? (·.id == id) = none) :
    (run id).exec e = (.error (.notFound id), e) := by
  unfold run
  rw [exec_bind_error (exec_find_missing hs readable missing)]

/-- A run of a record that is not Dispatched is refused once its start is,
and changes no record. -/
theorem exec_run_refused {r : ExportRecord} (found : recs.find? (·.id == id) = some r)
    (unstarted : r.status ≠ .dispatched) :
    ∃ s', (run id).exec e = (.error (.invalidTransition id r.status .processing), { e with store := s' }) ∧
      Stores s' recs := by
  have held := List.mem_of_find?_eq_some found
  have own : r.id = id := by simpa using List.find?_some found
  obtain ⟨s', refused, stores, -⟩ := hs.markProcessing_refused id fun q hq same => by
    rw [hs.eq_of_id hq held (same.trans own.symm)]
    exact unstarted
  refine ⟨s', ?_, stores⟩
  unfold run
  rw [exec_bind_ok (exec_find_found hs readable found),
    exec_bind_ok (exec_withStore_ok (·.markProcessing id) refused)]
  simp only [Bool.false_eq_true, if_false]
  exact exec_bind_error (exec_throw _ _)

/-- A worker processing a reserved job for a record that is missing or not
Dispatched fails the job on the queue and changes no record: its failure
hook does not mark a record whose start was refused. -/
theorem exec_process_refused {job : QueuedJob} (reserved : job.id ∈ e.queue.reservedIds)
    (decoded : decodeValue job.payload ExportJob.decode = .ok id)
    (unstarted : ∀ r, recs.find? (·.id == id) = some r → r.status ≠ .dispatched) :
    ∃ error d s' q, (process job).exec e = (.ok (.failed (some id) error d), { e with store := s', queue := q }) ∧
      e.queue.fail job.id error = .ok (d, q) ∧ Stores s' recs := by
  obtain ⟨outcome, e', processed, settles⟩ := process_settles reserved
  -- the run is refused on a record, and finds none otherwise
  have ran : ∃ err s', (run id).exec e = (.error err, { e with store := s' }) ∧ Stores s' recs ∧
      (err.isInvalidTransition = false → s' = e.store ∧ recs.find? (·.id == id) = none) := by
    cases found : recs.find? (·.id == id) with
    | none => exact ⟨_, e.store, exec_run_missing hs readable found, hs, fun _ => ⟨rfl, rfl⟩⟩
    | some r =>
      obtain ⟨s', refused, stores⟩ := exec_run_refused hs readable found (unstarted r found)
      exact ⟨_, s', refused, stores, fun invalid => nomatch invalid⟩
  obtain ⟨err, s', run_eq, stores, unrefused⟩ := ran
  cases settles with
  | acked decoded' ran' =>
    rw [decoded] at decoded'
    cases decoded'
    rw [run_eq] at ran'
    cases ran'
  | refused decoded' ran' _ failed =>
    rw [decoded] at decoded'
    cases decoded'
    rw [run_eq] at ran'
    cases ran'
    exact ⟨_, _, s', _, processed, failed, stores⟩
  | hooked decoded' ran' hooked failed =>
    rw [decoded] at decoded'
    cases decoded'
    rw [run_eq] at ran'
    cases ran'
    obtain ⟨rfl, missing⟩ := unrefused hooked
    -- with no record of the id, the hook only reads the store
    have looked : e.store.getExport id = (e.store, .ok none) := by
      rw [hs.getExport_spec readable id, missing]
    rw [markUnfinishedFailed_leaves looked fun record none => nomatch none] at processed
    exact ⟨_, _, e.store, _, processed, failed, hs⟩
  | undecodable undecoded =>
    rw [decoded] at undecoded
    cases undecoded

end Refused

end Exporter

end ReportExport
