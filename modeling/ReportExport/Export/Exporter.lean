import ReportExport.Export.Error
import ReportExport.Export.Csv
import ReportExport.Export.Job
import ReportExport.Store.Exports
import ReportExport.Storage.Manager
import ReportExport.Queue.Memory
import ReportExport.Report.Registry

/-!
# The export pipeline's state

Everything a dispatch, a run and a worker act on: the record store, the job
queue, the file tree with the disks and the staging directory, the report
registry and the settings. Job ids are shaped like random UUIDs: the first
numbered one, from the count of ids issued on, that no record and no job of
the queue has.

Two kinds of interference by another writer can be set up, each seen by one
part of the pipeline only:

* the dispatching side can see every new record cancelled (failed with the
  message `cancelled`) right after it is created;
* the running side can see the completion of a run refused, because the
  record was cancelled just before, or failing with an IO error.

Pipeline actions are written in `ExportM`: an action changes the state and
either gives a value or fails; a failure keeps the changes made before it.
-/

namespace ReportExport

open Config Store Query

/-- What happens when the running side completes a record. -/
inductive CompletionFault where
  /-- The record is cancelled first, so the completion finds it failed. -/
  | refused
  /-- The completion fails with an IO error of this message. -/
  | failed (message : String)
  deriving Inhabited

/-- The state of the export pipeline. -/
structure Exporter where
  store : RecordStore
  queue : MemoryQueue
  files : FileTree := {}
  storage : StorageManager
  /-- The directory all disks live in. -/
  disksHome : TreePath
  /-- Where CSV files are staged before they move onto their disk. -/
  staging : TreePath
  /-- Whether the staging directory is on the disks' file system. -/
  stagingShared : Bool := true
  registry : ReportRegistry
  exportSettings : ExportSettings := {}
  queueSettings : QueueSettings := {}
  completionFault : Option CompletionFault := none
  cancelOnCreate : Bool := false
  /-- Job ids and staged files issued so far. -/
  issued : Nat := 0
  deriving Inhabited

/-- The decimal digits of a number, padded with zeros to a width. -/
def decimalPadded (width n : Nat) : String :=
  let ds := Nat.toDigits 10 n
  String.ofList (List.replicate (width - ds.length) '0' ++ ds)

/-- The job id numbered `k`, shaped like a random UUID. -/
def jobIdText (k : Nat) : String := "00000000-0000-4000-8000-" ++ decimalPadded 12 k

namespace Exporter

/-- The records as every status listing returns them. -/
def records (e : Exporter) : List ExportRecord := e.store.listedRecords

/-- The job ids in use: those of the records and of the queue's jobs. -/
def takenJobIds (e : Exporter) : List String := e.records.filterMap (·.jobId) ++ e.queue.jobIds

/-- The job id the next dispatch takes: the first numbered one, from one past
the count of ids issued, not in use. -/
def nextJobId (e : Exporter) : String :=
  jobIdText (firstFree (fun k => !e.takenJobIds.contains (jobIdText k)) (e.issued + 1) e.takenJobIds.length)

end Exporter

/-- A pipeline action. -/
abbrev ExportM := ExceptT ExportError (StateM Exporter)

namespace ExportM

/-- Runs an action: its result and the state after it. -/
def exec {α : Type} (m : ExportM α) (e : Exporter) : Except ExportError α × Exporter :=
  (m.run).run e

/-- Fails with an error or gives a value. -/
def fromExcept {α : Type} (r : Except ExportError α) : ExportM α :=
  match r with
  | .ok a => pure a
  | .error e => throw e

/-- Runs an action and gives its outcome, success or failure, as a value. -/
def attempt {α : Type} (m : ExportM α) : ExportM (Except ExportError α) :=
  tryCatch (m.map .ok) (fun e => pure (.error e))

/-- A request to the record store. -/
def withStore {α : Type} (f : RecordStore → Outcome α) : ExportM α := do
  let e ← get
  let (s, r) := f e.store
  set { e with store := s }
  fromExcept (r.mapError .data)

/-- A change of the queue. -/
def withQueue (f : MemoryQueue → MemoryQueue) : ExportM Unit :=
  modify fun e => { e with queue := f e.queue }

/-- A fresh job id, shaped like a random UUID. -/
def freshJobId : ExportM String := do
  let e ← get
  set { e with issued := e.issued + 1 }
  return e.nextJobId

end ExportM

namespace Exporter

/-- The number of entries left in the staging directory. -/
def stagedCount (e : Exporter) : Nat := (e.files.below e.staging).length

/-- Every entry under the disks' directory, paths starting with the disk name. -/
def listing (e : Exporter) : List (String × FileNode) := e.files.listing e.disksHome

end Exporter

end ReportExport
