import ReportExport.Export.Exporter

/-!
# Dispatching exports

Dispatching freezes a definition into a new record and queues a job for it.
The queue connection named in the settings must be the queue's own, and the
filters are compiled first, so that a filter the source cannot take is
refused before any record exists. The new record is moved from Pending to
Dispatched with the id of its job, and only then is the job pushed.

A retry needs a failed record; it reads the record's descriptor back and
dispatches it again as a new record linked to the failed one, with the same
compiled query.

Jobs live only as long as the queue; recovering re-queues a job for every
Dispatched record, under the record's job id when it has one (a job still
queued under that id is not queued twice).
-/

namespace ReportExport

open Config Store ExportM

namespace Exporter

/-- The record of an id. -/
def find (id : Int) : ExportM ExportRecord := do
  match ← withStore (·.getExport id) with
  | some r => pure r
  | none => throw (.notFound id)

/-- Checks that the queue connection of the settings is the queue's own. -/
def checkConnection : ExportM Unit := do
  let e ← get
  match e.queueSettings.connection with
  | some c => if c != e.queue.connection then throw (.queue (.unknownConnection c)) else pure ()
  | none => pure ()

/-- Creates a record as the dispatching side sees it: with the cancel set up,
the record is failed right after it is created, and the record as created
is given. -/
def createRecord (n : NewExport) : ExportM ExportRecord := do
  let record ← withStore (·.createExport n)
  if (← get).cancelOnCreate then
    let _ ← withStore (·.markFailed record.id "cancelled")
  pure record

/-- Creates a record, marks it Dispatched with a fresh job id and queues the
job; the record as stored afterwards. -/
def createAndEnqueue (n : NewExport) : ExportM ExportRecord := do
  let record ← createRecord n
  let jobId ← freshJobId
  let job : QueuedJob := { id := jobId, queue := record.queue, payload := ExportJob.payload record.id }
  unless ← withStore (·.markDispatched record.id jobId) do
    throw (.invalidTransition record.id record.status .dispatched)
  withQueue (·.push job)
  find record.id

/-- Dispatches a definition. -/
def dispatch (d : ReportDefinition) : ExportM ExportRecord := do
  checkConnection
  let query ← fromExcept (d.buildQuery.mapError .report)
  let compiled := query.compiled
  let e ← get
  createAndEnqueue
    { descriptor := d.descriptor e.exportSettings, querySql := compiled.sql,
      queryBindings := compiled.bindings, queue := e.queueSettings.name,
      connection := e.queueSettings.connection }

/-- Reads a record's stored descriptor. -/
def storedDescriptor (r : ExportRecord) : Except ExportError ReportDescriptor :=
  (decodeText r.descriptorText ReportDescriptor.decode).mapError .descriptor

/-- Dispatches a failed record again as a new record linked to it. -/
def retry (id : Int) : ExportM ExportRecord := do
  let original ← find id
  unless original.canRetry do throw (.notRetryable id original.status)
  checkConnection
  let descriptor ← fromExcept (storedDescriptor original)
  let e ← get
  createAndEnqueue
    { descriptor, querySql := original.querySql, queryBindings := original.queryBindings,
      queue := e.queueSettings.name, connection := e.queueSettings.connection,
      retriedFromId := some original.id }

/-- The record a record was retried from, if any. -/
def retriedFrom (r : ExportRecord) : ExportM (Option ExportRecord) :=
  match r.retriedFromId with
  | some parent => withStore (·.getExport parent)
  | none => pure none

/-- The retries of a record, oldest first. -/
def retries (id : Int) : ExportM (List ExportRecord) := withStore (·.listRetries id)

/-- The records in a status, oldest first. -/
def list (status : ExportStatus) : ExportM (List ExportRecord) := withStore (·.listByStatus status)

/-- Queues a job for each of the records, under its job id when it has one. -/
def requeue : List ExportRecord → ExportM Unit
  | [] => pure ()
  | r :: rest => do
    let fresh ← freshJobId
    withQueue (·.push { id := r.jobId.getD fresh, queue := r.queue, payload := ExportJob.payload r.id })
    requeue rest

/-- Re-queues every Dispatched record; how many there are. -/
def recoverDispatched : ExportM Nat := do
  let records ← withStore (·.listByStatus .dispatched)
  requeue records
  pure records.length

end Exporter

end ReportExport
