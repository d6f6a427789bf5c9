import ReportExport.Store.Migration
import ReportExport.Export.Record
import ReportExport.Report.Descriptor
import ReportExport.Json.Decode

/-!
# The export-record repository

Export records live in the table `report_exports`. A record is created
Pending with its frozen descriptor, the compiled query and where the file
goes. Status changes are guarded updates: the update only matches a record
whose status is a legal predecessor of the new one, so a refused change
touches nothing and reports `false`.

Reading a record checks the stored values before anything else: a status
that is not a status, or bindings that are not a JSON array, make the record
corrupt.
-/

namespace ReportExport.Store

open Sql

/-- What a new record is made from. -/
structure NewExport where
  descriptor : ReportDescriptor
  querySql : String
  queryBindings : List Json := []
  queue : String
  connection : Option String := none
  retriedFromId : Option Int := none

/-- The columns of a record, in the order they are read. -/
def exportColumns : String :=
  "id, report_kind, descriptor, query_sql, query_bindings, status, " ++
  "rows_processed, total_rows, started_at, completed_at, failed_at, error_message, " ++
  "retried_from_id, disk, path, queue, connection, job_id, created_at, updated_at"

/-- Reads a stored status. -/
def readStatus (text : String) : Except StoreError ExportStatus :=
  match ExportStatus.ofToken? text with
  | some st => .ok st
  | none => .error (.corrupt "status" (ExportStatus.unknownMessage text))

/-- Reads stored bindings: the JSON text of an array. -/
def readBindings (text : String) : Except StoreError (List Json) :=
  (decodeText text (Json.asListOf Json.asValue)).mapError (.corrupt "query_bindings")

/-- Reads a record from a result row: status and bindings first, then the
other columns in record order. -/
def readRecord (row : ResultRow) : Except StoreError ExportRecord := do
  let col {α : Type} (r : Except DriverError α) : Except StoreError α := r.mapError .driver
  let status ← readStatus (← col (row.text "status"))
  let queryBindings ← readBindings (← col (row.text "query_bindings"))
  let id ← col (row.int "id")
  let reportKind ← col (row.text "report_kind")
  let descriptorText ← col (row.text "descriptor")
  let querySql ← col (row.text "query_sql")
  let rowsProcessed ← col (row.int "rows_processed")
  let totalRows ← col (row.intOpt "total_rows")
  let startedAt ← col (row.intOpt "started_at")
  let completedAt ← col (row.intOpt "completed_at")
  let failedAt ← col (row.intOpt "failed_at")
  let errorMessage ← col (row.textOpt "error_message")
  let retriedFromId ← col (row.intOpt "retried_from_id")
  let disk ← col (row.text "disk")
  let path ← col (row.text "path")
  let queue ← col (row.text "queue")
  let connection ← col (row.textOpt "connection")
  let jobId ← col (row.textOpt "job_id")
  let createdAt ← col (row.int "created_at")
  let updatedAt ← col (row.int "updated_at")
  return { id, reportKind, descriptorText, querySql, queryBindings, status, rowsProcessed,
           totalRows, startedAt, completedAt, failedAt, errorMessage, retriedFromId, disk,
           path, queue, connection, jobId, createdAt, updatedAt }

/-- The guard of a change to `next`: the status is one of its predecessors. -/
def statusGuard (next : ExportStatus) : String :=
  match next.predecessors with
  | [] => "0"
  | ps => "status IN (" ++ ", ".intercalate (ps.map fun p => "'" ++ p.token ++ "'") ++ ")"

/-- An optional integer as a bound value. -/
def optInteger : Option Int → SqlValue
  | some i => .integer i
  | none => .null

/-- An optional text as a bound value. -/
def optText : Option String → SqlValue
  | some t => .ofString t
  | none => .null

namespace RecordStore

/-- Reads every row as a record, failing on the first that does not read. -/
def readAll (s : RecordStore) (rows : Except DriverError (List ResultRow)) :
    Outcome (List ExportRecord) :=
  (s, rows.mapError .driver >>= fun rs => rs.mapM readRecord)

/-- Inserts a new Pending record and reads it back. -/
def createExport (s : RecordStore) (n : NewExport) : Outcome ExportRecord :=
  let sql := "INSERT INTO report_exports (report_kind, descriptor, query_sql, query_bindings, " ++
    "status, rows_processed, retried_from_id, disk, path, queue, connection, created_at, " ++
    "updated_at) VALUES (?, ?, ?, ?, 'pending', 0, ?, ?, ?, ?, ?, ?, ?) RETURNING " ++ exportColumns
  let args := [.ofString n.descriptor.kind, .ofString n.descriptor.toJson.compact, .ofString n.querySql,
    .ofString (Json.arr n.queryBindings).compact, optInteger n.retriedFromId, .ofString n.descriptor.disk,
    .ofString n.descriptor.outputPath, .ofString n.queue, optText n.connection, .integer s.clock,
    .integer s.clock]
  match s.fetchOne sql args with
  | (s, .error e) => (s, .error (.driver e))
  | (s, .ok row) => (s, readRecord row)

/-- The record of an id, if there is one. -/
def getExport (s : RecordStore) (id : Int) : Outcome (Option ExportRecord) :=
  match s.fetchOptional ("SELECT " ++ exportColumns ++ " FROM report_exports WHERE id = ?")
      [.integer id] with
  | (s, .error e) => (s, .error (.driver e))
  | (s, .ok none) => (s, .ok none)
  | (s, .ok (some row)) => (s, (readRecord row).map some)

/-- Runs a guarded update; whether a row changed. -/
def guardedUpdate (s : RecordStore) (sql : String) (args : List SqlValue) : Outcome Bool :=
  let (s, r) := s.execute sql args
  (s, (r.map (fun n => decide (0 < n))).mapError .driver)

/-- Pending to Dispatched, recording the queue job id. -/
def markDispatched (s : RecordStore) (id : Int) (jobId : String) : Outcome Bool :=
  s.guardedUpdate ("UPDATE report_exports SET status = 'dispatched', job_id = ?, updated_at = ? " ++
    "WHERE id = ? AND " ++ statusGuard .dispatched) [.ofString jobId, .integer s.clock, .integer id]

/-- Dispatched to Processing, stamping the start. -/
def markProcessing (s : RecordStore) (id : Int) : Outcome Bool :=
  s.guardedUpdate ("UPDATE report_exports SET status = 'processing', started_at = ?, " ++
    "updated_at = ? WHERE id = ? AND " ++ statusGuard .processing)
    [.integer s.clock, .integer s.clock, .integer id]

/-- Processing to Completed, stamping the end. -/
def markCompleted (s : RecordStore) (id : Int) : Outcome Bool :=
  s.guardedUpdate ("UPDATE report_exports SET status = 'completed', completed_at = ?, " ++
    "updated_at = ? WHERE id = ? AND " ++ statusGuard .completed)
    [.integer s.clock, .integer s.clock, .integer id]

/-- Any unfinished status to Failed, stamping the failure and its message. -/
def markFailed (s : RecordStore) (id : Int) (message : String) : Outcome Bool :=
  s.guardedUpdate ("UPDATE report_exports SET status = 'failed', failed_at = ?, " ++
    "error_message = ?, updated_at = ? WHERE id = ? AND " ++ statusGuard .failed)
    [.integer s.clock, .ofString message, .integer s.clock, .integer id]

/-- Stores progress; without a total the stored one stays. Whether the record
exists. -/
def updateProgress (s : RecordStore) (id rowsProcessed : Int) (totalRows : Option Int) :
    Outcome Bool :=
  s.guardedUpdate ("UPDATE report_exports SET rows_processed = ?, " ++
    "total_rows = COALESCE(?, total_rows), updated_at = ? WHERE id = ?")
    [.integer rowsProcessed, optInteger totalRows, .integer s.clock, .integer id]

/-- The records created as retries of a record, oldest first. -/
def listRetries (s : RecordStore) (parentId : Int) : Outcome (List ExportRecord) :=
  let (s, rows) := s.fetchAll ("SELECT " ++ exportColumns ++
    " FROM report_exports WHERE retried_from_id = ? ORDER BY id") [.integer parentId]
  s.readAll rows

/-- The records in a status, oldest first. -/
def listByStatus (s : RecordStore) (status : ExportStatus) : Outcome (List ExportRecord) :=
  let (s, rows) := s.fetchAll ("SELECT " ++ exportColumns ++
    " FROM report_exports WHERE status = ? ORDER BY id") [.ofString status.token]
  s.readAll rows

/-- Every record that some status listing returns, ordered by id; a status
whose listing fails contributes none. -/
def listedRecords (s : RecordStore) : List ExportRecord :=
  let listed := ExportStatus.all.flatMap fun st =>
    match (s.listByStatus st).2 with
    | .ok rs => rs
    | .error _ => []
  listed.mergeSort fun a b => decide (a.id ≤ b.id)

end RecordStore

/-- A fresh store with foreign keys on, migrated. -/
def RecordStore.fresh : Outcome Unit := ({} : RecordStore).migrate

end ReportExport.Store
