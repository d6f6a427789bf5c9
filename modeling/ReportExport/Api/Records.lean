import ReportExport.Api.Basic
import ReportExport.Store.Exports

/-!
# The JSON command interface: the export-record repository

A migrated in-memory record store is driven step by step: records are
created, read, moved between statuses and listed. Each step's entry carries
every listed record as `[id, status, rows_processed, total_rows]`.
-/

namespace ReportExport.Api

open Store

/-- The view of a record. -/
def recordView (r : ExportRecord) : Json :=
  .obj [("id", .int r.id), ("report_kind", .str r.reportKind),
    ("descriptor", .str r.descriptorText), ("query_sql", .str r.querySql),
    ("query_bindings", .arr r.queryBindings), ("status", .str r.status.token),
    ("rows_processed", .int r.rowsProcessed), ("total_rows", Json.opt Json.int r.totalRows),
    ("started", .bool r.startedAt.isSome), ("completed", .bool r.completedAt.isSome),
    ("failed", .bool r.failedAt.isSome), ("error_message", Json.opt Json.str r.errorMessage),
    ("retried_from_id", Json.opt Json.int r.retriedFromId), ("disk", .str r.disk),
    ("path", .str r.path), ("queue", .str r.queue),
    ("connection", Json.opt Json.str r.connection), ("job_id", Json.opt Json.str r.jobId),
    ("progress_percentage", Json.opt Json.float r.progressPercentage),
    ("is_finished", .bool r.isFinished), ("is_running", .bool r.isRunning),
    ("can_retry", .bool r.canRetry)]

/-- The snapshot of the listed records. -/
def recordsView (s : RecordStore) : Json :=
  .arr (s.listedRecords.map fun r =>
    .arr [.int r.id, .str r.status.token, .int r.rowsProcessed, Json.opt Json.int r.totalRows])

/-- The answer for a store error. -/
def StoreError.answer (e : StoreError) : Json :=
  failure ("DataError." ++ e.kind) e.message

/-- The answer of a store outcome whose value has a view. -/
def answerWith {α : Type} (view : α → Json) : Except StoreError α → Json
  | .ok a => ok (view a)
  | .error e => StoreError.answer e

/-- One repository step: the answer and the store after it, or `none` for a
step that is not a repository step. -/
def recordStep (s : RecordStore) (name : String) (step : Json) :
    Except String (Option (Json × RecordStore)) := do
  let answered {α : Type} (view : α → Json) (o : Outcome α) : Option (Json × RecordStore) :=
    some (answerWith view o.2, o.1)
  match name with
  | "create" =>
    match decodeValue ((step.get? "descriptor").getD .null) ReportDescriptor.decode with
    | .error m => return some (decodeFailure m, s)
    | .ok descriptor =>
      let n : NewExport :=
        { descriptor
          querySql := (← strOpt step "query_sql").getD "SELECT 1"
          queryBindings := (← arrOpt step "query_bindings").getD []
          queue := (← strOpt step "queue").getD "default"
          connection := ← strOpt step "connection"
          retriedFromId := ← intOpt step "retried_from_id" }
      return answered recordView (s.createExport n)
  | "get" => return answered (Json.opt recordView) (s.getExport (← int step "id"))
  | "mark_dispatched" =>
    return answered Json.bool (s.markDispatched (← int step "id") ((← strOpt step "job_id").getD "job"))
  | "mark_processing" => return answered Json.bool (s.markProcessing (← int step "id"))
  | "mark_completed" => return answered Json.bool (s.markCompleted (← int step "id"))
  | "mark_failed" =>
    return answered Json.bool (s.markFailed (← int step "id") ((← strOpt step "message").getD ""))
  | "update_progress" =>
    return answered Json.bool
      (s.updateProgress (← int step "id") (← int step "rows_processed") (← intOpt step "total_rows"))
  | "list_retries" =>
    return answered (fun rs => .arr (rs.map recordView)) (s.listRetries (← int step "id"))
  | "list_by_status" =>
    let token ← str step "status"
    match ExportStatus.ofToken? token with
    | some st => return answered (fun rs => .arr (rs.map recordView)) (s.listByStatus st)
    | none => return some (failure "UnknownStatus" (ExportStatus.unknownMessage token), s)
  | _ => return none

/-- Runs repository steps in order; each entry carries the records. -/
def recordSteps : RecordStore → List Json → List Json
  | _, [] => []
  | s, step :: rest =>
    let (entry, s) := match stepName step >>= fun n => (recordStep s n step).map (·, n) with
      | .ok (some (a, s), _) => (a, s)
      | .ok (none, n) => (failure "bad_input" ("unknown step '" ++ n ++ "'"), s)
      | .error m => (failure "bad_input" m, s)
    withSnapshot entry [("records", recordsView s)] :: recordSteps s rest

/-- `repo`: steps on a fresh migrated record store. -/
def repoOp (req : Json) : Handler := do
  match RecordStore.fresh with
  | (_, .error e) => return failure "SqliteError" e.serviceMessage
  | (s, .ok ()) => return ok (.arr (recordSteps s ((← arrOpt req "steps").getD [])))

end ReportExport.Api
