import ReportExport.Export.Run

/-!
# Working the queue

A worker takes jobs off its queue and runs each job's export. A completed run
acknowledges the job. A failed run hands the job back to the queue as failed,
with the error's text, and the queue's own policy decides whether it comes
back or becomes a dead letter. A payload that is not an export job fails the
same way, without a record.

A failed run normally marks its record Failed itself; for the failures that
come before that (a missing record, a corrupt one) the worker marks the record
Failed when it is not finished. A refused status change is left alone: the
record belongs to whichever run moved it.

Draining processes jobs until none is visible on the queue.
-/

namespace ReportExport

open Config Store ExportM

/-- What became of one job. -/
inductive JobOutcome where
  | completed (record : ExportRecord)
  | failed (exportId : Option Int) (error : String) (disposition : FailureDisposition)
  deriving Inhabited

namespace Exporter

/-- A queue request that may be refused. -/
def withQueueResult {α : Type} (f : MemoryQueue → Except QueueError (α × MemoryQueue)) :
    ExportM α := do
  let e ← get
  match f e.queue with
  | .ok (a, q) => set { e with queue := q }; pure a
  | .error err => throw (.queue err)

/-- Marks a record Failed unless it is finished; failures are only noted. -/
def markUnfinishedFailed (id : Int) (error : String) : ExportM Unit := do
  match ← attempt (withStore (·.getExport id)) with
  | .ok (some record) =>
    if !record.isFinished then
      let _ ← attempt (withStore (·.markFailed id error))
  | _ => pure ()

/-- Processes one job. -/
def process (job : QueuedJob) : ExportM JobOutcome := do
  let (exportId, result) ← match decodeValue job.payload ExportJob.decode with
    | .ok id => do pure (some id, ← attempt (run id))
    | .error m => pure (none, .error (.queue (.payload m)))
  match result with
  | .ok record =>
    withQueueResult fun q => (q.ack job.id).map ((), ·)
    pure (.completed record)
  | .error err =>
    let error := err.message
    if let some id := exportId then
      unless err.isInvalidTransition do markUnfinishedFailed id error
    let disposition ← withQueueResult fun q => q.fail job.id error
    pure (.failed exportId error disposition)

/-- Takes the next visible job of the worker's queue. -/
def popJob : ExportM (Option QueuedJob) := do
  let e ← get
  let (job, q) := e.queue.pop e.queueSettings.name
  set { e with queue := q }
  pure job

/-- A bound on the jobs a drain processes: each job on the worker's queue is
delivered at most once more than the attempts the queue allows, the one
more for a count that wraps to zero. -/
def deliveriesLeft (e : Exporter) : Nat :=
  (e.queue.entries e.queueSettings.name).length * ((max e.queue.maxAttempts 1).toNat + 1)

/-- Processes visible jobs until there is none, at most `fuel` of them. -/
def drainFor : Nat → ExportM (List JobOutcome)
  | 0 => pure []
  | fuel + 1 => do
    match ← popJob with
    | none => pure []
    | some job =>
      let outcome ← process job
      pure (outcome :: (← drainFor fuel))

/-- Processes jobs until the queue has no visible job. -/
def drain : ExportM (List JobOutcome) := do
  drainFor (deliveriesLeft (← get) + 1)

/-- Processes the next job, waiting up to `timeoutMs` for one. -/
def runNext (timeoutMs : Nat) : ExportM (Option JobOutcome) := do
  let e ← get
  let (job, q) := e.queue.wait e.queueSettings.name timeoutMs
  set { e with queue := q }
  match job with
  | some job => pure (some (← process job))
  | none => pure none

/-- Processes jobs while one becomes visible within `waitMs`, at most `fuel`
of them; a job whose bookkeeping fails is not counted. The number processed. -/
def workFor (waitMs : Nat) : Nat → ExportM Nat
  | 0 => pure 0
  | fuel + 1 => do
    let e ← get
    let (job, q) := e.queue.wait e.queueSettings.name waitMs
    set { e with queue := q }
    match job with
    | none => pure 0
    | some job =>
      let counted := match ← attempt (process job) with
        | .ok _ => 1
        | .error _ => 0
      pure (counted + (← workFor waitMs fuel))

/-- Works the queue until it is idle; the number of jobs processed. -/
def workUntilIdle (waitMs : Nat) : ExportM Nat := do
  workFor waitMs (deliveriesLeft (← get) + 1)

end Exporter

end ReportExport
